/-!
# Edit distance

The least number of insertions, deletions and substitutions of single items that turn one list into
another. The distances from one prefix of the first list to every prefix of the second form a row,
and each further item turns a row into the next, so the work is the product of the two lengths.
-/

namespace UnitLint.Text

variable {α : Type} [DecidableEq α]

/-- The rest of the next row. Of the two rows, `left` is the last entry known of the next one and
`corner :: above` is what remains of the present one; `ys` are the items still to be matched. -/
def nextRowFrom (x : α) (left corner : Nat) : List α → List Nat → List Nat
  | y :: ys, up :: above =>
    let entry := min (min (left + 1) (up + 1)) (corner + if x = y then 0 else 1)
    entry :: nextRowFrom x entry up ys above
  | _, _ => []

/-- The row of distances for one more item `x` of the first list. -/
def nextRow (x : α) (ys : List α) : List Nat → List Nat
  | [] => []
  | corner :: above => (corner + 1) :: nextRowFrom x (corner + 1) corner ys above

/-- The least number of single-item edits between two lists. -/
def editDistance (xs ys : List α) : Nat :=
  (xs.foldl (fun row x => nextRow x ys row) (List.range (ys.length + 1))).getLastD 0

end UnitLint.Text
