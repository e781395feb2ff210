import UnitLint.Inspection
import UnitLint.Proofs.Catalog.Writing
import UnitLint.Proofs.Registry.Spelling

/-!
# Verdicts on properties

What an inspection reports, told from the text of the record table alone: a value is reported
exactly if the last record of its setting names a validator and the value is outside the grammar of
that validator. The catalog has no say in it, so a setting that it lacks is inspected like any
other; the condition under which no such setting is ever reported is stated here as well.
-/

namespace UnitLint

/-- Whether a validator is the one that the last record of a setting names. The validator of any
value governs nothing. -/
def RecordTable.Governs (text : String) (setting : Setting) (validator : Validator) : Prop :=
  validator ≠ .null ∧ ∃ line, IsLast (IsRecordOf setting) (Text.lines text) line ∧
    Record.ofLine? line = some ⟨setting, validator.name⟩

open RecordTable (IsRecordOf Governs)

theorem Registry.validatorFor_eq_iff_governs {source : Source} {registry : Registry}
    (hload : (ofSource source).value = .ok registry) {setting : Setting} {validator : Validator}
    (hne : validator ≠ .null) :
    registry.validatorFor setting = validator ↔ Governs source.recordText setting validator := by
  obtain ⟨catalog, _, _, rfl⟩ := ofSource_eq_ok_iff.1 hload
  rw [validatorFor_eq_iff hne, validatorName?, RecordTable.get?_ofText_eq_some_iff, Governs]
  exact (and_iff_right hne).symm

namespace Inspection

variable {source : Source} {registry : Registry}

/-! ## From properties to problems -/

theorem value_inspect (registry : Registry) (problems : List Problem) (property : Property) :
    (inspect registry problems property).value =
      problems ++ (problem? registry property).toList := by
  rw [inspect]
  cases problem? registry property <;> simp

/-- Inspections add up: every property gives its own problem or none. -/
theorem value_check (registry : Registry) (properties : List Property) :
    (check registry properties).value = properties.filterMap (problem? registry) := by
  have hfold : ∀ problems, properties.foldl
      (fun problems property => (inspect registry problems property).value) problems =
        problems ++ properties.filterMap (problem? registry) := by
    induction properties with
    | nil => simp
    | cons property properties ih =>
      intro problems
      rw [List.foldl_cons, ih, value_inspect, List.append_assoc]
      cases hproblem : problem? registry property <;> simp [hproblem]
  rw [check, Traced.value_foldlM]
  exact hfold []

/-- What a record table holds against a property: it has a value, and that is outside the grammar of
the validator that governs the setting. -/
structure Violates (text : String) (property : Property) (value : String)
    (validator : Validator) : Prop where
  has_value : property.value? = some value
  governs : Governs text property.setting validator
  rejected : ¬validator.Accepts value

/-- A violation gives the problem that its validator words, and it lies where the value stands. -/
theorem Violates.problem?_eq (hload : (Registry.ofSource source).value = .ok registry)
    {property : Property} {value : String} {validator : Validator}
    (h : Violates source.recordText property value validator) :
    ∃ message, validator.diagnose? value = some message ∧
      problem? registry property = some ⟨property.valueSpan, property.setting, message⟩ := by
  obtain ⟨message, hmessage⟩ :=
    Option.isSome_iff_exists.1 ((validator.isSome_diagnose?_iff value).2 h.rejected)
  have hvalidator : registry.validatorFor property.setting = validator :=
    (Registry.validatorFor_eq_iff_governs hload h.governs.1).2 h.governs
  refine ⟨message, hmessage, ?_⟩
  simp only [problem?, h.has_value, checkValue, hvalidator, hmessage, Option.map_some]

/-- There is no other reason for a problem. -/
theorem exists_violates (hload : (Registry.ofSource source).value = .ok registry)
    {property : Property} {problem : Problem} (h : problem? registry property = some problem) :
    ∃ value validator, Violates source.recordText property value validator := by
  cases hvalue : property.value? with
  | none => simp [problem?, hvalue] at h
  | some value =>
    simp only [problem?, hvalue, checkValue, Option.map_eq_some_iff] at h
    obtain ⟨message, hdiagnosis, _⟩ := h
    have hrejected : ¬(registry.validatorFor property.setting).Accepts value := by
      rw [← Validator.isSome_diagnose?_iff, hdiagnosis]
      rfl
    have hne : registry.validatorFor property.setting ≠ .null := by
      intro hnull
      rw [hnull] at hrejected
      exact hrejected trivial
    exact ⟨value, _, hvalue, (Registry.validatorFor_eq_iff_governs hload hne).1 rfl, hrejected⟩

/-- The problems found in some properties are their violations, in order: one for each property
whose value is outside the grammar of the governing validator, with the place of the value and the
message of the validator, and nothing else. In particular nothing is said about a property without a
value, of a setting without a record, or of one whose last record names no validator at work. -/
theorem check_reports_violations (hload : (Registry.ofSource source).value = .ok registry)
    (properties : List Property) :
    (check registry properties).value = properties.filterMap (problem? registry) ∧
      (∀ property value validator, Violates source.recordText property value validator →
        ∃ message, validator.diagnose? value = some message ∧
          problem? registry property = some ⟨property.valueSpan, property.setting, message⟩) ∧
      (∀ property, (∀ value validator, ¬Violates source.recordText property value validator) →
        problem? registry property = none) ∧
      ∀ property, (property.value? = none ∨
          (∀ line ∈ Text.lines source.recordText, ¬IsRecordOf property.setting line) ∨
          ∃ line name, IsLast (IsRecordOf property.setting) (Text.lines source.recordText) line ∧
            Record.ofLine? line = some ⟨property.setting, name⟩ ∧
            ∀ validator, validator ≠ Validator.null → validator.name ≠ name) →
        problem? registry property = none := by
  have hnone : ∀ property, (∀ value validator,
      ¬Violates source.recordText property value validator) →
        problem? registry property = none := by
    intro property hviolates
    rw [Option.eq_none_iff_forall_ne_some]
    intro problem hproblem
    obtain ⟨value, validator, h⟩ := exists_violates hload hproblem
    exact hviolates value validator h
  refine ⟨value_check registry properties, fun _ _ _ h => h.problem?_eq hload, hnone, ?_⟩
  intro property hsilent
  apply hnone
  rintro value validator ⟨hvalue, ⟨hne, line, hlast, hline⟩, _⟩
  rcases hsilent with hnovalue | hnorecord | ⟨other, name, hother, hname, hvalidators⟩
  · rw [hvalue] at hnovalue
    contradiction
  · exact hnorecord line hlast.mem hlast.holds
  · rw [hother.unique hlast, hline, Option.some.injEq, Record.mk.injEq] at hname
    exact hvalidators validator hne hname.2

/-- The later of two records counts, and only the value that it does not allow is reported. -/
theorem check_reports_violations_mode :
    ∃ registry, (Registry.ofSource (.ofTexts "\x7b\"Unit\":\x7b\x7d\x7d"
          "Exec.Mask, config_parse_bool, 0\nExec.Mask, config_parse_mode, 0\n")).value =
        .ok registry ∧
      (check registry [⟨⟨"Exec", "Mask"⟩, some "0777", ⟨0, 4⟩, ⟨5, 9⟩⟩,
        ⟨⟨"Exec", "Mask"⟩, none, ⟨10, 14⟩, ⟨14, 14⟩⟩,
        ⟨⟨"Exec", "Mask"⟩, some "yes", ⟨15, 19⟩, ⟨20, 23⟩⟩]).value =
          [⟨⟨20, 23⟩, ⟨"Exec", "Mask"⟩, (Rejection.notMode "yes").message⟩] := by
  refine ⟨_, Registry.value_ofSource_bare _, ?_⟩
  rw [(check_reports_violations (Registry.value_ofSource_bare _) _).1]
  decide +kernel

/-! ## Settings that the catalog lacks -/

theorem governs_of_mem_check (hload : (Registry.ofSource source).value = .ok registry)
    {properties : List Property} {problem : Problem}
    (hmem : problem ∈ (check registry properties).value) :
    ∃ validator, Governs source.recordText problem.setting validator := by
  rw [value_check, List.mem_filterMap] at hmem
  obtain ⟨property, _, hproblem⟩ := hmem
  obtain ⟨value, validator, hviolates⟩ := exists_violates hload hproblem
  obtain ⟨message, _, heq⟩ := hviolates.problem?_eq hload
  obtain rfl : _ = problem := Option.some.inj (heq.symm.trans hproblem)
  exact ⟨validator, hviolates.governs⟩

/-- Some value of every governed setting is reported. -/
theorem exists_mem_check (hload : (Registry.ofSource source).value = .ok registry)
    {setting : Setting} {validator : Validator}
    (hgoverns : Governs source.recordText setting validator) :
    ∃ properties, ∃ problem ∈ (check registry properties).value, problem.setting = setting := by
  have hviolates : Violates source.recordText ⟨setting, some "?", ⟨0, 0⟩, ⟨0, 0⟩⟩ "?" validator :=
    ⟨rfl, hgoverns, Validator.not_accepts_questionMark hgoverns.1⟩
  obtain ⟨message, _, hproblem⟩ := hviolates.problem?_eq hload
  refine ⟨[⟨setting, some "?", ⟨0, 0⟩, ⟨0, 0⟩⟩], ⟨⟨0, 0⟩, setting, message⟩, ?_, rfl⟩
  rw [value_check, List.mem_filterMap]
  exact ⟨_, List.mem_singleton_self _, hproblem⟩

/-- Inspections are silent on settings that the catalog lacks exactly if the record table names no
validator at work for such a setting, and that is also exactly when each of them has the validator
of any value. Nothing in a registry makes it so: the two tables are read independently. -/
theorem check_silent_on_unknown_iff (hload : (Registry.ofSource source).value = .ok registry) :
    ((∀ properties, ∀ problem ∈ (check registry properties).value,
        registry.catalog.hasKeyword problem.setting) ↔
      ∀ setting validator, Governs source.recordText setting validator →
        registry.catalog.hasKeyword setting) ∧
      ((∀ setting, registry.catalog.hasKeyword setting = false →
        registry.validatorFor setting = .null) ↔
      ∀ setting validator, Governs source.recordText setting validator →
        registry.catalog.hasKeyword setting) := by
  constructor
  · constructor
    · intro hsilent setting validator hgoverns
      obtain ⟨properties, problem, hmem, rfl⟩ := exists_mem_check hload hgoverns
      exact hsilent properties problem hmem
    · intro hknown properties problem hmem
      obtain ⟨validator, hgoverns⟩ := governs_of_mem_check hload hmem
      exact hknown _ validator hgoverns
  · constructor
    · intro hnull setting validator hgoverns
      by_contra hunknown
      rw [Bool.not_eq_true] at hunknown
      have hat := (Registry.validatorFor_eq_iff_governs hload hgoverns.1).2 hgoverns
      exact hgoverns.1 (hat.symm.trans (hnull setting hunknown))
    · intro hknown setting hunknown
      by_contra hne
      have hgoverns := (Registry.validatorFor_eq_iff_governs hload hne).1 rfl
      rw [hknown _ _ hgoverns] at hunknown
      contradiction

/-- A setting that is in no catalog is reported. -/
theorem check_reports_unknown :
    ∃ registry, (Registry.ofSource (.ofTexts "\x7b\"Unit\":\x7b\x7d\x7d"
        "Service.Type, config_parse_bool, 0, 0\n")).value = .ok registry ∧
      registry.catalog.hasKeyword ⟨"Service", "Type"⟩ = false ∧
      registry.validatorFor ⟨"Service", "Type"⟩ = .boolean ∧
      (check registry [⟨⟨"Service", "Type"⟩, some "maybe", ⟨0, 4⟩, ⟨5, 10⟩⟩]).value =
        [⟨⟨5, 10⟩, ⟨"Service", "Type"⟩, (Rejection.notBoolean "maybe").message⟩] :=
  ⟨_, Registry.value_ofSource_bare _, by decide +kernel, by decide +kernel, by decide +kernel⟩

/-- The only record is that of a setting which the catalog knows. -/
theorem check_silent_on_unknown_serviceType :
    ∃ registry, (Registry.ofSource (.ofTexts
        (Listing.toText [("Service", [("Type", ⟨none, none⟩)])])
        "Service.Type, config_parse_bool, 0\n")).value = .ok registry ∧
      ∀ properties, ∀ problem ∈ (check registry properties).value,
        registry.catalog.hasKeyword problem.setting := by
  have hload := Registry.value_ofSource_spelled
    (.ofTexts _ "Service.Type, config_parse_bool, 0\n") (by decide)
    (Listing.toText_spells [("Service", [("Type", ⟨none, none⟩)])])
  refine ⟨_, hload, (check_silent_on_unknown_iff hload).1.2 ?_⟩
  rintro setting validator ⟨_, line, hlast, hline⟩
  have hlines : Text.lines "Service.Type, config_parse_bool, 0\n" =
      ["Service.Type, config_parse_bool, 0"] := by decide +kernel
  have hmem := hlast.mem
  rw [Source.ofTexts, hlines, List.mem_singleton] at hmem
  have hrecord : Record.ofLine? "Service.Type, config_parse_bool, 0" =
      some ⟨⟨"Service", "Type"⟩, "config_parse_bool"⟩ := by decide +kernel
  rw [hmem, hrecord, Option.some.injEq, Record.mk.injEq] at hline
  rw [← hline.1]
  decide +kernel

end Inspection

end UnitLint
