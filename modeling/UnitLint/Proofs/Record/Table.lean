import Mathlib.Data.List.Dedup
import UnitLint.Proofs.LastWins
import UnitLint.Record.Reading

/-!
# What a table of records holds

A table answers with the last record of a setting, and its counter tells how many settings have a
record. The counter is kept apart from the entries, so that it is right is an invariant of adding
records: a record for a new setting adds one entry, any other record only changes one.
-/

namespace UnitLint.RecordTable

variable {table : RecordTable} {record : Record} {setting : Setting}

@[simp] theorem get?_empty (setting : Setting) : empty.get? setting = none := by
  simp [get?, empty]

/-- A section without records answers like an empty one. -/
theorem get?_eq_keysIn (table : RecordTable) (setting : Setting) :
    table.get? setting = (table.keysIn setting.sectionName)[setting.key]? := by
  rw [get?, keysIn, Std.TreeMap.getD_eq_getD_getElem?]
  cases table.sections[setting.sectionName]? <;> simp

theorem keysIn_insert (table : RecordTable) (record : Record) (sectionName : String) :
    (table.insert record).keysIn sectionName =
      if record.setting.sectionName = sectionName then
        (table.keysIn sectionName).insert record.setting.key record.validator
      else table.keysIn sectionName := by
  simp only [keysIn, insert, Std.TreeMap.getD_insert, Std.LawfulEqCmp.compare_eq_iff_eq]
  split
  · next heq => rw [heq]
  · rfl

/-- A record takes the place of an earlier one for its setting and of no other. -/
theorem get?_insert (table : RecordTable) (record : Record) (setting : Setting) :
    (table.insert record).get? setting =
      if record.setting = setting then some record.validator else table.get? setting := by
  obtain ⟨⟨recordSection, recordKey⟩, validator⟩ := record
  obtain ⟨sectionName, key⟩ := setting
  rw [get?_eq_keysIn, get?_eq_keysIn, keysIn_insert]
  simp only [Setting.mk.injEq]
  by_cases hsection : recordSection = sectionName
  · by_cases hkey : recordKey = key <;>
      simp [hsection, hkey, Std.TreeMap.getElem?_insert, Std.LawfulEqCmp.compare_eq_iff_eq]
  · simp [hsection]

theorem ofRecords_append_singleton (records : List Record) (record : Record) :
    ofRecords (records ++ [record]) = (ofRecords records).insert record := by
  rw [ofRecords, List.foldl_append]
  rfl

/-- A table answers with the last record of a setting. -/
theorem get?_ofRecords (records : List Record) (setting : Setting) :
    (ofRecords records).get? setting =
      (records.reverse.find? (·.setting = setting)).map Record.validator := by
  induction records using List.reverseRecOn with
  | nil => exact get?_empty setting
  | append_singleton records record ih =>
    rw [ofRecords_append_singleton, get?_insert, ih, List.reverse_append]
    by_cases h : record.setting = setting <;> simp [h]

theorem get?_ofRecords_eq_some_iff {records : List Record} {validator : String} :
    (ofRecords records).get? setting = some validator ↔
      IsLast (·.setting = setting) records ⟨setting, validator⟩ := by
  rw [get?_ofRecords]
  refine IsLast.map_find?_reverse_eq_some_iff (fun _ => rfl) ?_
  rintro ⟨_, found⟩ rfl
  rfl

theorem get?_ofRecords_eq_none_iff {records : List Record} :
    (ofRecords records).get? setting = none ↔ ∀ record ∈ records, record.setting ≠ setting := by
  rw [get?_ofRecords, Option.map_eq_none_iff, List.find?_eq_none]
  simp

/-! ## The counter -/

/-- The settings that have an entry, section by section. -/
def settings (table : RecordTable) : List Setting :=
  table.sections.toList.flatMap fun (sectionName, keys) => keys.keys.map (Setting.mk sectionName)

theorem mem_settings : setting ∈ table.settings ↔ (table.get? setting).isSome := by
  obtain ⟨sectionName, key⟩ := setting
  simp only [settings, List.mem_flatMap, List.mem_map, Prod.exists, Setting.mk.injEq,
    Std.TreeMap.mem_toList_iff_getElem?_eq_some, Std.TreeMap.mem_keys, get?]
  constructor
  · rintro ⟨_, keys, hkeys, _, hkey, rfl, rfl⟩
    rwa [hkeys, Option.bind_some, ← Std.TreeMap.mem_iff_isSome_getElem?]
  · intro hsome
    obtain ⟨_, hget⟩ := Option.isSome_iff_exists.1 hsome
    obtain ⟨keys, hkeys, hkey⟩ := Option.bind_eq_some_iff.1 hget
    refine ⟨sectionName, keys, hkeys, key, ?_, rfl, rfl⟩
    rw [Std.TreeMap.mem_iff_isSome_getElem?, hkey]
    rfl

/-- No setting has two entries: sections do not repeat, nor do keys inside one. -/
theorem nodup_settings (table : RecordTable) : table.settings.Nodup := by
  rw [settings, List.nodup_flatMap]
  constructor
  · rintro ⟨sectionName, keys⟩ _
    exact Std.TreeMap.nodup_keys.map fun _ _ heq => (Setting.mk.inj heq).2
  · refine Std.TreeMap.distinct_keys_toList.imp ?_
    rintro ⟨first, _⟩ ⟨second, _⟩ hne setting hfirst hsecond
    obtain ⟨_, _, rfl⟩ := List.mem_map.1 hfirst
    obtain ⟨_, _, heq⟩ := List.mem_map.1 hsecond
    exact hne (Std.LawfulEqCmp.compare_eq_iff_eq.2 (Setting.mk.inj heq).1.symm)

/-- A table and a list without repetitions that name the same settings have the same length. -/
theorem length_settings_eq {others : List Setting} (hnodup : others.Nodup)
    (h : ∀ setting, (table.get? setting).isSome ↔ setting ∈ others) :
    table.settings.length = others.length := by
  refine ((List.perm_ext_iff_of_nodup table.nodup_settings hnodup).2 ?_).length_eq
  intro setting
  rw [mem_settings, h]

/-- The counter of a table is the number of its entries. -/
def Counted (table : RecordTable) : Prop := table.size = table.settings.length

theorem counted_empty : empty.Counted := by
  refine (length_settings_eq List.nodup_nil fun setting => ?_).symm
  simp

theorem size_insert (table : RecordTable) (record : Record) :
    (table.insert record).size =
      if (table.get? record.setting).isSome then table.size else table.size + 1 := by
  rw [get?_eq_keysIn, ← Std.TreeMap.contains_eq_isSome_getElem?]
  rfl

theorem length_settings_insert (table : RecordTable) (record : Record) :
    (table.insert record).settings.length =
      if (table.get? record.setting).isSome then table.settings.length
      else table.settings.length + 1 := by
  split
  · next hknown =>
    refine length_settings_eq table.nodup_settings fun setting => ?_
    rw [get?_insert, mem_settings]
    split
    · next heq => simp [← heq, hknown]
    · rfl
  · next hnew =>
    have hnodup : (record.setting :: table.settings).Nodup :=
      List.nodup_cons.2 ⟨mt mem_settings.1 hnew, table.nodup_settings⟩
    rw [← List.length_cons]
    refine length_settings_eq hnodup fun setting => ?_
    rw [get?_insert, List.mem_cons, mem_settings, @eq_comm _ setting]
    split
    · next heq => simp [heq]
    · next hne => simp [hne]

/-- The step: adding a record keeps the counter right, whether or not the setting is new. -/
theorem Counted.insert (h : table.Counted) (record : Record) : (table.insert record).Counted := by
  rw [Counted, size_insert, length_settings_insert, h]

/-- The run: the counter is right after any records. -/
theorem counted_ofRecords (records : List Record) : (ofRecords records).Counted := by
  induction records using List.reverseRecOn with
  | nil => exact counted_empty
  | append_singleton records record ih =>
    rw [ofRecords_append_singleton]
    exact ih.insert record

theorem size_ofRecords (records : List Record) :
    (ofRecords records).size = (records.map Record.setting).dedup.length := by
  rw [counted_ofRecords records]
  refine length_settings_eq (List.nodup_dedup _) fun setting => ?_
  rw [List.mem_dedup, List.mem_map, ← not_iff_not, Bool.not_eq_true, Option.isSome_eq_false_iff,
    Option.isNone_iff_eq_none, get?_ofRecords_eq_none_iff]
  simp

/-! ## Reading a text -/

/-- Reading lines adds their records one after the other and counts the lines that are none. -/
theorem value_readLines (lines : List String) (before : RecordTable × Nat) :
    (lines.foldlM readLine before).value =
      ((lines.filterMap Record.ofLine?).foldl insert before.1,
        before.2 + (lines.filter fun line => (Record.ofLine? line).isNone).length) := by
  induction lines generalizing before with
  | nil => rfl
  | cons line lines ih =>
    rw [List.foldlM_cons, Traced.value_bind, ih]
    cases hline : Record.ofLine? line with
    | none => simp [readLine, hline, Nat.add_assoc, Nat.add_comm 1]
    | some record => simp [readLine, hline]

/-- Reading line by line gives the table of the records of a text. -/
@[simp] theorem value_read (text : String) : (read text).value = ofText text := by
  rw [read, Traced.value_bind, value_readLines]
  rfl

/-- Whether a line is a record of a setting. -/
def IsRecordOf (setting : Setting) (line : String) : Prop :=
  ∃ validator, Record.ofLine? line = some ⟨setting, validator⟩

theorem isRecordOf_iff {line : String} :
    IsRecordOf setting line ↔ (Record.ofLine? line).any (·.setting = setting) := by
  rw [IsRecordOf, Option.any_eq_true]
  constructor
  · rintro ⟨validator, hline⟩
    exact ⟨_, hline, by simp⟩
  · rintro ⟨⟨found, validator⟩, hline, hfound⟩
    rw [decide_eq_true_eq] at hfound
    exact ⟨validator, by rw [hline, ← hfound]⟩

/-- In a text, the last record of a setting is the last line that is one. -/
theorem get?_ofText_eq_some_iff {text validator : String} :
    (ofText text).get? setting = some validator ↔
      ∃ line, IsLast (IsRecordOf setting) (Text.lines text) line ∧
        Record.ofLine? line = some ⟨setting, validator⟩ := by
  classical
  rw [ofText, get?_ofRecords_eq_some_iff, IsLast.iff_find?_reverse, recordsOf,
    ← List.filterMap_reverse, List.find?_filterMap, Option.bind_eq_some_iff]
  simp only [IsLast.iff_find?_reverse, isRecordOf_iff, Bool.decide_eq_true]

theorem isEmpty_ofText_iff (text : String) :
    (ofText text).isEmpty ↔ ∀ line ∈ Text.lines text, Record.ofLine? line = none := by
  rw [isEmpty, beq_iff_eq, ofText, size_ofRecords, List.length_eq_zero_iff, List.dedup_eq_nil,
    List.map_eq_nil_iff, recordsOf, List.filterMap_eq_nil_iff]

/-- A text is read as the map of its records in which the last one counts: every setting has the
validator of its last record, the counter tells how many settings have a record, and a text without
records is empty. Behind the counter stands an invariant that no further record breaks. -/
theorem read_lastRecord (text : String) :
    (∀ setting validator, (read text).value.get? setting = some validator ↔
        IsLast (·.setting = setting) (recordsOf text) ⟨setting, validator⟩) ∧
      (∀ setting, (read text).value.get? setting = none ↔
        ∀ record ∈ recordsOf text, record.setting ≠ setting) ∧
      (read text).value.size = ((recordsOf text).map Record.setting).dedup.length ∧
      ((read text).value.isEmpty ↔ ∀ line ∈ Text.lines text, Record.ofLine? line = none) ∧
      (read text).value.Counted ∧
      ∀ (table : RecordTable) (record : Record), table.Counted → (table.insert record).Counted := by
  rw [value_read]
  refine ⟨?_, ?_, size_ofRecords _, isEmpty_ofText_iff text, counted_ofRecords _, ?_⟩
  · intro setting validator
    exact get?_ofRecords_eq_some_iff
  · intro setting
    exact get?_ofRecords_eq_none_iff
  · intro table record h
    exact h.insert record

end UnitLint.RecordTable
