import UnitLint.Proofs.Inspection.Verdict
import UnitLint.Proofs.Record.Grammar

/-!
# Settings of vendors

Vendors add settings of their own under names with a hyphen, such as `X-Deploy` or `[X-Vendor]`. A
record cannot name them: the names in a table have the shape that the grammar of records gives them,
whatever text the table was read of. So with any tables the values of such settings are accepted,
and nothing is reported.
-/

namespace UnitLint

open Record (IsSectionName IsWord isCapital isSmall)

/-- Whether a record can name a setting. -/
structure Setting.IsNameable (setting : Setting) : Prop where
  sectionName : IsSectionName setting.sectionName.toList
  key : IsWord setting.key.toList

/-- The settings with a name of which one look tells that no record can give it. -/
inductive Setting.IsForeign (setting : Setting) : Prop where
  | hyphen (hmem : '-' ∈ setting.sectionName.toList ∨ '-' ∈ setting.key.toList)
  | nameless (hempty : setting.sectionName = "")
  /-- The section does not begin with a capital of ASCII. -/
  | uncapitalised (hhead : ∀ c ∈ setting.sectionName.toList.head?, isCapital c = false)
  /-- The section holds a digit, or a character beyond ASCII. -/
  | unlettered {c : Char} (hmem : c ∈ setting.sectionName.toList)
      (hc : Text.isDigit c ∨ 0x80 ≤ c.toNat)
  /-- The key holds a character that is no part of a word. -/
  | unworded {c : Char} (hmem : c ∈ setting.key.toList) (hc : Text.isWordChar c = false)

/-! ## Names in records -/

namespace Record

theorem toNat_le_of_isCapital {c : Char} (h : isCapital c) :
    'A'.toNat ≤ c.toNat ∧ c.toNat ≤ 'Z'.toNat := by
  simpa only [isCapital, Bool.and_eq_true, decide_eq_true_eq, Text.le_iff_toNat_le] using h

theorem toNat_le_of_isSmall {c : Char} (h : isSmall c) :
    'a'.toNat ≤ c.toNat ∧ c.toNat ≤ 'z'.toNat := by
  simpa only [isSmall, Bool.and_eq_true, decide_eq_true_eq, Text.le_iff_toNat_le] using h

theorem IsSectionName.exists_capital {cs : List Char} (h : IsSectionName cs) :
    ∃ capital ∈ cs.head?, isCapital capital := by
  obtain ⟨hcapital, -, -⟩ := h
  exact ⟨_, rfl, hcapital⟩

/-- The name of a section holds nothing but letters of ASCII. -/
theorem IsSectionName.isCapital_or_isSmall {cs : List Char} (h : IsSectionName cs) :
    ∀ c ∈ cs, isCapital c ∨ isSmall c := by
  obtain ⟨hcapital, -, hsmall⟩ := h
  exact List.forall_mem_cons.2 ⟨.inl hcapital, fun c hc => .inr (hsmall c hc)⟩

/-- Letters of ASCII come neither among the digits nor beyond ASCII. -/
theorem IsSectionName.toNat_lt {cs : List Char} (h : IsSectionName cs) :
    ∀ c ∈ cs, '9'.toNat < c.toNat ∧ c.toNat < 0x80 := by
  intro c hc
  have hcapital : 'A'.toNat = 65 ∧ 'Z'.toNat = 90 := ⟨rfl, rfl⟩
  have hsmall : 'a'.toNat = 97 ∧ 'z'.toNat = 122 := ⟨rfl, rfl⟩
  have hnine : '9'.toNat = 57 := rfl
  rcases h.isCapital_or_isSmall c hc with hletter | hletter
  · have := toNat_le_of_isCapital hletter
    omega
  · have := toNat_le_of_isSmall hletter
    omega

/-- The setting of a record has a name for which there is room in a record. -/
theorem isNameable_of_ofLine? {line : String} {record : Record}
    (h : ofLine? line = some record) : record.setting.IsNameable := by
  obtain ⟨parts, hparts, rfl⟩ := exists_divide h
  constructor
  · rw [Parts.record, String.toList_ofList]
    exact hparts.sectionName
  · rw [Parts.record, String.toList_ofList]
    exact hparts.key

end Record

/-- Every name in a table stands in some line of its text. -/
theorem RecordTable.isNameable_of_get? {text : String} {setting : Setting}
    (h : ((read text).value.get? setting).isSome) : setting.IsNameable := by
  obtain ⟨validator, hvalidator⟩ := Option.isSome_iff_exists.1 h
  rw [value_read, get?_ofText_eq_some_iff] at hvalidator
  obtain ⟨line, -, hline⟩ := hvalidator
  exact Record.isNameable_of_ofLine? hline

theorem Setting.IsForeign.not_isNameable {setting : Setting} (h : setting.IsForeign) :
    ¬setting.IsNameable := by
  rintro ⟨hsection, hkey⟩
  cases h with
  | hyphen hmem =>
    rcases hmem with hmem | hmem
    · have hletter := hsection.isCapital_or_isSmall '-' hmem
      revert hletter
      decide
    · have hword := hkey.isWordChar '-' hmem
      revert hword
      decide +kernel
  | nameless hempty =>
    obtain ⟨capital, hmem, -⟩ := hsection.exists_capital
    rw [hempty] at hmem
    contradiction
  | uncapitalised hhead =>
    obtain ⟨capital, hmem, hcapital⟩ := hsection.exists_capital
    rw [hhead capital hmem] at hcapital
    contradiction
  | unlettered hmem hc =>
    have hletter := hsection.toNat_lt _ hmem
    rcases hc with hdigit | hbeyond
    · have := (Text.isDigit_iff _).1 hdigit
      omega
    · omega
  | unworded hmem hc =>
    rw [hkey.isWordChar _ hmem] at hc
    contradiction

/-! ## Registries -/

namespace Registry

variable {source : Source} {registry : Registry} {setting : Setting}

theorem isNameable_of_validatorName? (hload : (ofSource source).value = .ok registry)
    (h : (registry.validatorName? setting).isSome) : setting.IsNameable := by
  obtain ⟨catalog, -, -, rfl⟩ := ofSource_eq_ok_iff.1 hload
  rw [validatorName?, ← RecordTable.value_read] at h
  exact RecordTable.isNameable_of_get? h

theorem validatorFor_eq_null (hload : (ofSource source).value = .ok registry)
    (h : ¬setting.IsNameable) : registry.validatorFor setting = .null := by
  have hnone : registry.validatorName? setting = none := by
    rw [← Option.not_isSome_iff_eq_none]
    exact mt (isNameable_of_validatorName? hload) h
  rw [validatorFor, hnone]
  rfl

end Registry

namespace Inspection

/-- A setting that has a validator is named as records name it: a capital and small letters for the
section, a word for the key. So any value of a setting with another name is accepted, and no
inspection says anything about it, whatever tables a registry was built from. -/
theorem check_silent_on_foreign :
    (∀ text setting, ((RecordTable.read text).value.get? setting).isSome →
        setting.IsNameable) ∧
      (∀ setting : Setting, setting.IsForeign → ¬setting.IsNameable) ∧
      ∀ source registry, (Registry.ofSource source).value = .ok registry →
        (∀ setting, (registry.validatorName? setting).isSome → setting.IsNameable) ∧
        ∀ setting : Setting, ¬setting.IsNameable →
          registry.validatorFor setting = .null ∧
          (∀ value, checkValue registry setting value = none) ∧
          ∀ properties, ∀ problem ∈ (check registry properties).value,
            problem.setting ≠ setting := by
  refine ⟨fun _ _ h => RecordTable.isNameable_of_get? h, fun _ h => h.not_isNameable, ?_⟩
  intro source registry hload
  refine ⟨fun _ h => Registry.isNameable_of_validatorName? hload h, ?_⟩
  intro setting hsetting
  have hnull := Registry.validatorFor_eq_null hload hsetting
  refine ⟨hnull, fun value => ?_, ?_⟩
  · rw [checkValue, hnull]
    rfl
  · rintro properties problem hmem rfl
    obtain ⟨validator, hne, line, -, hline⟩ := governs_of_mem_check hload hmem
    exact hsetting (Record.isNameable_of_ofLine? hline)

/-- A line tries to name the setting of a vendor. -/
theorem check_silent_on_foreign_deploy :
    ∃ registry, (Registry.ofSource (.ofTexts "\x7b\"Unit\":\x7b\x7d\x7d"
        "Service.X-Deploy, config_parse_bool, 0\n")).value = .ok registry ∧
      registry.validatorFor ⟨"Service", "X-Deploy"⟩ = .null ∧
      ∀ properties, ∀ problem ∈ (check registry properties).value,
        problem.setting ≠ ⟨"Service", "X-Deploy"⟩ := by
  obtain ⟨-, hforeign, hbuilt⟩ := check_silent_on_foreign
  have hload := Registry.value_ofSource_bare "Service.X-Deploy, config_parse_bool, 0\n"
  have hdeploy := hforeign ⟨"Service", "X-Deploy"⟩ (.hyphen (.inr (by decide)))
  obtain ⟨-, haccepted⟩ := hbuilt _ _ hload
  obtain ⟨hnull, -, hsilent⟩ := haccepted _ hdeploy
  exact ⟨_, hload, hnull, hsilent⟩

end Inspection

end UnitLint
