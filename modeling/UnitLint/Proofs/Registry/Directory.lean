import UnitLint.Proofs.Document.Finding
import UnitLint.Proofs.Registry.Decoding
import UnitLint.Proofs.Registry.Log

/-!
# Registries of directories

A registry is built from a directory in a fixed order: the catalog is fetched, then the record
table, and only then is the catalog read. What fails first hides whatever else is wrong. The record
table has to be a text, but which text makes no difference, and neither do the descriptions.
-/

namespace UnitLint

namespace Document.FileTree

variable {tree : FileTree} {catalogText recordText : String}

theorem canHold_catalogName : CanHold Asset.catalogName := by decide

theorem canHold_recordTableName : CanHold Asset.recordTableName := by decide

/-- Whether a directory holds the texts of both tables. -/
structure HoldsTables (tree : FileTree) (catalogText recordText : String) : Prop where
  catalog : tree.Finds Asset.catalogName (.ok catalogText)
  records : tree.Finds Asset.recordTableName (.ok recordText)

theorem holdsTables_iff :
    tree.HoldsTables catalogText recordText ↔
      tree.readText Asset.catalogName = .ok catalogText ∧
        tree.readText Asset.recordTableName = .ok recordText := by
  rw [readText_eq_iff canHold_catalogName, readText_eq_iff canHold_recordTableName]
  exact ⟨fun h => ⟨h.catalog, h.records⟩, fun h => ⟨h.1, h.2⟩⟩

end Document.FileTree

namespace Registry

open Document

/-! ## What comes of the text of a catalog -/

section Source

variable {source : Source}

theorem value_ofSource_listing (source : Source) :
    (ofSource source).value =
      match Listing.ofText source.catalogText with
      | .error error => .error (.catalog error)
      | .ok listing =>
        if listing = [] then .error .noSections
        else .ok ⟨.ofListing listing, .ofText source.recordText, source.library⟩ := by
  rw [value_ofSource, Catalog.ofText]
  cases Listing.ofText source.catalogText with
  | error error => rfl
  | ok listing =>
    show (if (Catalog.ofListing listing).isEmpty then _ else _) = _
    rw [Catalog.isEmpty_ofListing]
    simp only [List.isEmpty_iff]

theorem exists_catalog_error_iff :
    (∃ error, (ofSource source).value = .error (.catalog error)) ↔
      ∀ listing : Listing, ¬listing.IsToldBy source.catalogText := by
  simp only [← Listing.ofText_eq_ok_iff, value_ofSource_listing]
  cases Listing.ofText source.catalogText with
  | error error => simp
  | ok listing => by_cases hempty : listing = [] <;> simp [hempty]

theorem value_ofSource_eq_noSections_iff :
    (ofSource source).value = .error .noSections ↔ Listing.IsToldBy [] source.catalogText := by
  rw [← Listing.ofText_eq_ok_iff, value_ofSource_listing]
  cases Listing.ofText source.catalogText with
  | error error => simp
  | ok listing => by_cases hempty : listing = [] <;> simp [hempty]

theorem value_ofSource_eq_ok_iff {registry : Registry} :
    (ofSource source).value = .ok registry ↔
      ∃ listing : Listing, listing ≠ [] ∧ listing.IsToldBy source.catalogText ∧
        registry = ⟨.ofListing listing, .ofText source.recordText, source.library⟩ := by
  simp only [← Listing.ofText_eq_ok_iff, value_ofSource_listing]
  cases Listing.ofText source.catalogText with
  | error error => simp
  | ok listing => by_cases hempty : listing = [] <;> simp [hempty, eq_comm]

theorem value_ofSource_ne_unreadable (source : Source) (root name : String) (fault : ReadFault) :
    (ofSource source).value ≠ .error (.unreadable root name fault) := by
  rw [value_ofSource_listing]
  cases Listing.ofText source.catalogText with
  | error error => simp
  | ok listing => by_cases hempty : listing = [] <;> simp [hempty]

end Source

/-! ## What comes of a directory -/

variable {root : String} {tree : FileTree} {fault : ReadFault}

theorem ofDirectory_eq (root : String) (tree : FileTree) :
    ofDirectory root tree =
      match tree.readText Asset.catalogName, tree.readText Asset.recordTableName with
      | .error fault, _ => pure (.error (.unreadable root Asset.catalogName fault))
      | .ok _, .error fault => pure (.error (.unreadable root Asset.recordTableName fault))
      | .ok catalogText, .ok recordText => ofSource ⟨catalogText, recordText, .directory⟩ := by
  rw [ofDirectory, Source.ofDirectory_eq]
  cases tree.readText Asset.catalogName with
  | error fault => rfl
  | ok catalogText =>
    cases tree.readText Asset.recordTableName with
    | error fault => rfl
    | ok recordText => rfl

/-- That the catalog cannot be fetched is told whatever the record table is. -/
theorem value_eq_unreadable_catalog_iff :
    (ofDirectory root tree).value = .error (.unreadable root Asset.catalogName fault) ↔
      tree.Finds Asset.catalogName (.error fault) := by
  rw [← FileTree.readText_eq_iff FileTree.canHold_catalogName, ofDirectory_eq]
  cases tree.readText Asset.catalogName with
  | error found => simp
  | ok catalogText =>
    cases tree.readText Asset.recordTableName with
    | error found => simp [Asset.catalogName, Asset.recordTableName]
    | ok recordText => simp [value_ofSource_ne_unreadable]

/-- That the record table cannot be fetched is told where the catalog can be, whatever that says. -/
theorem value_eq_unreadable_records_iff :
    (ofDirectory root tree).value = .error (.unreadable root Asset.recordTableName fault) ↔
      (∃ catalogText, tree.Finds Asset.catalogName (.ok catalogText)) ∧
        tree.Finds Asset.recordTableName (.error fault) := by
  simp only [← FileTree.readText_eq_iff FileTree.canHold_catalogName,
    ← FileTree.readText_eq_iff FileTree.canHold_recordTableName, ofDirectory_eq]
  cases tree.readText Asset.catalogName with
  | error found => simp [Asset.catalogName, Asset.recordTableName]
  | ok catalogText =>
    cases tree.readText Asset.recordTableName with
    | error found => simp
    | ok recordText => simp [value_ofSource_ne_unreadable]

/-- Whatever does not blame a file comes of the texts of both tables, as it does without a
directory. -/
theorem value_ofDirectory_iff (root : String) (tree : FileTree) {result : Except LoadError Registry}
    (hresult : ∀ name fault, .error (.unreadable root name fault) ≠ result) :
    (ofDirectory root tree).value = result ↔
      ∃ catalogText recordText, tree.HoldsTables catalogText recordText ∧
        (ofSource ⟨catalogText, recordText, .directory⟩).value = result := by
  simp only [FileTree.holdsTables_iff, ofDirectory_eq]
  cases tree.readText Asset.catalogName with
  | error found => simp [hresult]
  | ok catalogText =>
    cases tree.readText Asset.recordTableName with
    | error found => simp [hresult]
    | ok recordText => simp

theorem exists_catalog_error_ofDirectory_iff :
    (∃ error, (ofDirectory root tree).value = .error (.catalog error)) ↔
      ∃ catalogText recordText, tree.HoldsTables catalogText recordText ∧
        ∀ listing : Listing, ¬listing.IsToldBy catalogText := by
  have hvalue (error : Json.Error) :
      (ofDirectory root tree).value = .error (.catalog error) ↔ _ :=
    value_ofDirectory_iff root tree (by simp)
  constructor
  · rintro ⟨error, herror⟩
    obtain ⟨catalogText, recordText, hholds, hsource⟩ := (hvalue error).1 herror
    exact ⟨catalogText, recordText, hholds, exists_catalog_error_iff.1 ⟨error, hsource⟩⟩
  · rintro ⟨catalogText, recordText, hholds, hnone⟩
    obtain ⟨error, hsource⟩ : ∃ error,
        (ofSource ⟨catalogText, recordText, .directory⟩).value = .error (.catalog error) :=
      exists_catalog_error_iff.2 hnone
    exact ⟨error, (hvalue error).2 ⟨catalogText, recordText, hholds, hsource⟩⟩

theorem value_ofDirectory_eq_noSections_iff :
    (ofDirectory root tree).value = .error .noSections ↔
      ∃ catalogText recordText, tree.HoldsTables catalogText recordText ∧
        Listing.IsToldBy [] catalogText := by
  rw [value_ofDirectory_iff root tree (by simp)]
  simp only [value_ofSource_eq_noSections_iff]

theorem value_ofDirectory_eq_ok_iff {registry : Registry} :
    (ofDirectory root tree).value = .ok registry ↔
      ∃ catalogText recordText, tree.HoldsTables catalogText recordText ∧
        ∃ listing : Listing, listing ≠ [] ∧ listing.IsToldBy catalogText ∧
          registry = ⟨.ofListing listing, .ofText recordText, .directory⟩ := by
  rw [value_ofDirectory_iff root tree (by simp)]
  simp only [value_ofSource_eq_ok_iff]

theorem events_ofDirectory_of_error {error : LoadError}
    (h : (ofDirectory root tree).value = .error error) : (ofDirectory root tree).events = [] := by
  rw [ofDirectory] at h ⊢
  cases hsource : Source.ofDirectory root tree with
  | error error => rfl
  | ok source =>
    rw [hsource] at h
    exact events_ofSource_of_error h

/-- What comes of a directory is the first of these that applies: the catalog cannot be fetched as a
text, the record table cannot, the text of the catalog tells no listing, it tells one without
sections. Otherwise the registry is built, whatever the record table says. On an error nothing is
reported. -/
theorem ofDirectory_outcome (root : String) (tree : FileTree) :
    (∀ name ∈ [Asset.catalogName, Asset.recordTableName], ∃! result, tree.Finds name result) ∧
    (∀ fault,
      (ofDirectory root tree).value = .error (.unreadable root Asset.catalogName fault) ↔
        tree.Finds Asset.catalogName (.error fault)) ∧
    (∀ fault,
      (ofDirectory root tree).value = .error (.unreadable root Asset.recordTableName fault) ↔
        (∃ catalogText, tree.Finds Asset.catalogName (.ok catalogText)) ∧
          tree.Finds Asset.recordTableName (.error fault)) ∧
    ((∃ error, (ofDirectory root tree).value = .error (.catalog error)) ↔
      ∃ catalogText recordText, tree.HoldsTables catalogText recordText ∧
        ∀ listing : Listing, ¬listing.IsToldBy catalogText) ∧
    ((ofDirectory root tree).value = .error .noSections ↔
      ∃ catalogText recordText, tree.HoldsTables catalogText recordText ∧
        Listing.IsToldBy [] catalogText) ∧
    (∀ registry, (ofDirectory root tree).value = .ok registry ↔
      ∃ catalogText recordText, tree.HoldsTables catalogText recordText ∧
        ∃ listing : Listing, listing ≠ [] ∧ listing.IsToldBy catalogText ∧
          registry = ⟨.ofListing listing, .ofText recordText, .directory⟩) ∧
    ∀ error, (ofDirectory root tree).value = .error error →
      (ofDirectory root tree).events = [] := by
  refine ⟨?_, fun _ => value_eq_unreadable_catalog_iff, fun _ => value_eq_unreadable_records_iff,
    exists_catalog_error_ofDirectory_iff, value_ofDirectory_eq_noSections_iff,
    fun _ => value_ofDirectory_eq_ok_iff, fun _ => events_ofDirectory_of_error⟩
  intro name hname
  apply FileTree.existsUnique_finds
  simp only [List.mem_cons, List.not_mem_nil, or_false] at hname
  rcases hname with rfl | rfl
  · exact FileTree.canHold_catalogName
  · exact FileTree.canHold_recordTableName

/-- The catalog is malformed, and the record table a directory: only the latter is told. -/
theorem ofDirectory_outcome_unreadable :
    (ofDirectory "root" (.directory [(Asset.catalogName, .file "\x7b".toUTF8),
        (Asset.recordTableName, .directory [])])).value =
      .error (.unreadable "root" Asset.recordTableName .isADirectory) ∧
    (ofDirectory "root" (.directory [(Asset.catalogName, .file "\x7b".toUTF8),
        (Asset.recordTableName, .directory [])])).events = [] := by
  obtain ⟨-, -, hrecords, -, -, -, hevents⟩ := ofDirectory_outcome "root"
    (.directory [(Asset.catalogName, .file "\x7b".toUTF8), (Asset.recordTableName, .directory [])])
  have hvalue := (hrecords .isADirectory).2 ⟨⟨"\x7b", .text rfl⟩, .isADirectory rfl⟩
  exact ⟨hvalue, hevents _ hvalue⟩

end Registry

end UnitLint
