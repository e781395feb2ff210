import UnitLint.Document.Store
import UnitLint.Text.Decode

/-!
# File trees

A directory with what is below it, as a file system shows it: a path is walked part by part, two
dots lead to the directory above, a part that is no directory ends the walk, and so does a name that
is too long. What lies outside is not known; it is taken to consist of directories without files.
-/

namespace UnitLint.Document

/-- What stands at a place. -/
inductive FileTree where
  /-- Nothing is there. -/
  | nothing
  | file (bytes : ByteArray)
  /-- A directory with its entries, of which the first of a name counts. -/
  | directory (entries : List (String × FileTree))

namespace FileTree

/-- What a directory has under a name. Nothing is below what is no directory. -/
def child (tree : FileTree) (name : String) : FileTree :=
  match tree with
  | directory entries => (entries.lookup name).getD nothing
  | nothing | file _ => nothing

/-- What stands at the end of a row of names. -/
def node (tree : FileTree) (place : List String) : FileTree :=
  place.foldl child tree

/-- The tree as a directory that has something under a name. -/
def withChild (tree : FileTree) (name : String) (content : FileTree) : FileTree :=
  match tree with
  | directory entries => directory ((name, content) :: entries)
  | nothing | file _ => directory [(name, content)]

/-- Puts something at the end of a row of names, and makes the directories that lead there. -/
def put (tree : FileTree) (place : List String) (content : FileTree) : FileTree :=
  match place with
  | [] => content
  | name :: names => tree.withChild name ((tree.child name).put names content)

/-- The names in a path. -/
def placeOf (path : String) : List String :=
  (parts path).filter (!isIdle ·)

/-- Makes a directory, unless there is something already. -/
def makeDirectory (tree : FileTree) (path : String) : FileTree :=
  match tree.node (placeOf path) with
  | nothing => tree.put (placeOf path) (directory [])
  | file _ | directory _ => tree

/-- Writes a file. -/
def write (tree : FileTree) (path : String) (bytes : ByteArray) : FileTree :=
  tree.put (placeOf path) (file bytes)

/-- Removes a file, if there is one. The directories that lead to it stay. -/
def remove (tree : FileTree) (path : String) : FileTree :=
  match tree.node (placeOf path) with
  | file _ => tree.put (placeOf path) nothing
  | nothing | directory _ => tree

/-- Where a walk can be. -/
inductive Position where
  /-- At the end of a row of names. -/
  | inside (place : List String)
  | outside
  deriving DecidableEq, Repr

/-- The directory above. -/
def Position.above : Position → Position
  | inside [] => outside
  | inside (name :: names) => inside (name :: names).dropLast
  | outside => outside

/-- What is met under a name. -/
def Position.child : Position → String → Option Position
  | inside place, name => some (inside (place ++ [name]))
  | outside, _ => none

/-- What a walk finds where it is. -/
def seenFrom (tree : FileTree) : Position → FileTree
  | .inside place => tree.node place
  | .outside => directory []

/-- The greatest length of a name, in bytes. -/
def maxName : Nat := 255

/-- The greatest length of a path, in bytes. The path of the directory itself takes its share of the
4095 bytes that the operating system accepts. -/
def maxPath : Nat := 4079

/-- Walks on along the parts of a path. -/
def walk (tree : FileTree) (position : Position) : List String → Except ReadFault FileTree
  | [] => .ok (tree.seenFrom position)
  | part :: rest =>
    match tree.seenFrom position with
    | nothing => .error .notFound
    | file _ => .error .notADirectory
    | directory _ =>
      if isIdle part then tree.walk position rest
      else if part = ".." then tree.walk position.above rest
      else if maxName < part.utf8ByteSize then .error .nameTooLong
      else
        match position.child part with
        | none => .error .notFound
        | some position => tree.walk position rest

/-- Where the walk along a path begins. -/
def start (path : String) : Position :=
  if path.toList.head? = some '/' then .outside else .inside []

/-- Reads the file at a path. -/
def read (tree : FileTree) (path : String) : Except ReadFault ByteArray :=
  if '\x00' ∈ path.toList then .error .nulInPath
  else if maxPath < path.utf8ByteSize then .error .nameTooLong
  else
    match tree.walk (start path) (parts path) with
    | .error fault => .error fault
    | .ok nothing => .error .notFound
    | .ok (directory _) => .error .isADirectory
    | .ok (file bytes) => .ok bytes

/-- Reads the file at a path as text. -/
def readText (tree : FileTree) (path : String) : Except ReadFault String :=
  match tree.read path with
  | .error fault => .error fault
  | .ok bytes =>
    match Text.decode bytes with
    | .ok text => .ok text
    | .error _ => .error .notUtf8

/-- The tree as a store. -/
def store (tree : FileTree) : Store := fun path =>
  match tree.read path with
  | .error .notFound => .ok none
  | .error fault => .error fault
  | .ok bytes => .ok (some bytes)

end FileTree

end UnitLint.Document
