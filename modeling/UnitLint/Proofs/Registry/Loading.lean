import UnitLint.Proofs.Record.Table
import UnitLint.Proofs.Validator.Grammar
import UnitLint.Registry.Basic

/-!
# What a registry is made of

A registry is built exactly if the text of the catalog can be read and names a section. Whatever the
record table says, it has no part in that. In a directory both tables have to be fetched before.
-/

namespace UnitLint

/-- All that fetching the tables of a directory can lead to. -/
theorem Source.ofDirectory_eq (root : String) (tree : Document.FileTree) :
    ofDirectory root tree =
      match tree.readText Asset.catalogName, tree.readText Asset.recordTableName with
      | .error fault, _ => .error (.unreadable root Asset.catalogName fault)
      | .ok _, .error fault => .error (.unreadable root Asset.recordTableName fault)
      | .ok catalogText, .ok recordText => .ok ⟨catalogText, recordText, .directory⟩ := by
  rw [ofDirectory, table, table]
  cases tree.readText Asset.catalogName with
  | error fault => rfl
  | ok catalogText =>
    cases tree.readText Asset.recordTableName with
    | error fault => rfl
    | ok recordText => rfl

namespace Registry

/-- All that building a registry can lead to. -/
theorem value_ofSource (source : Source) :
    (ofSource source).value =
      match Catalog.ofText source.catalogText with
      | .error error => .error (.catalog error)
      | .ok catalog =>
        if catalog.isEmpty then .error .noSections
        else .ok ⟨catalog, RecordTable.ofText source.recordText, source.library⟩ := by
  rw [ofSource]
  cases Catalog.ofText source.catalogText with
  | error error => rfl
  | ok catalog =>
    cases hempty : catalog.isEmpty with
    | true => simp [hempty]
    | false => simp [hempty, RecordTable.value_read]

/-- All that a registry can be, once it has been built. -/
theorem ofSource_eq_ok_iff {source : Source} {registry : Registry} :
    (ofSource source).value = .ok registry ↔
      ∃ catalog, Catalog.ofText source.catalogText = .ok catalog ∧ catalog.isEmpty = false ∧
        registry = ⟨catalog, RecordTable.ofText source.recordText, source.library⟩ := by
  rw [value_ofSource]
  cases Catalog.ofText source.catalogText with
  | error error => simp
  | ok catalog =>
    cases hempty : catalog.isEmpty with
    | true => simp [hempty]
    | false =>
      simp only [Bool.false_eq_true, if_false, Except.ok.injEq, exists_eq_left', hempty, true_and]
      exact eq_comm

/-- A text of a catalog that cannot be read is fatal, whatever the record table and the library
are. -/
theorem value_ofSource_eq_error {source : Source} {error : Json.Error}
    (h : Listing.ofText source.catalogText = .error error) :
    (ofSource source).value = .error (.catalog error) := by
  rw [value_ofSource, Catalog.ofText, h]
  rfl

/-- Where a registry is built or nothing is named, the text of the catalog has been read. -/
theorem exists_listing {source : Source}
    (h : (∃ registry, (ofSource source).value = .ok registry) ∨
      (ofSource source).value = .error .noSections) :
    ∃ listing, Listing.ofText source.catalogText = .ok listing := by
  cases hlisting : Listing.ofText source.catalogText with
  | ok listing => exact ⟨listing, rfl⟩
  | error error =>
    rw [value_ofSource_eq_error hlisting] at h
    simp at h

/-- A validator that turns values away is at work for a setting exactly if a record names it. -/
theorem validatorFor_eq_iff {registry : Registry} {setting : Setting} {validator : Validator}
    (hne : validator ≠ .null) :
    registry.validatorFor setting = validator ↔
      registry.validatorName? setting = some validator.name := by
  rw [validatorFor]
  cases hvalidator : (registry.validatorName? setting).bind Validator.ofName? with
  | none =>
    refine iff_of_false (fun heq => hne heq.symm) fun hname => ?_
    rw [hname, Option.bind_some, Validator.ofName?_eq_some_iff.2 rfl] at hvalidator
    contradiction
  | some found =>
    obtain ⟨name, hname, hfound⟩ := Option.bind_eq_some_iff.1 hvalidator
    rw [hname, Option.getD_some, Option.some.injEq, ← Validator.ofName?_eq_some_iff.1 hfound]
    exact ⟨congrArg Validator.name, Validator.name_injective⟩

end Registry

end UnitLint
