import Mathlib.Data.Set.Card
import UnitLint.Proofs.Registry.Spelling

/-!
# What is reported while a registry is built

Each line that is no record is reported where it stands, then how many settings have a record and
how many lines were passed over, then a warning if there is no record at all, and in the end how
much the registry holds. The numbers come from counters that are kept while the tables are read;
they are the ones that whoever asks the finished registry can count again.
-/

namespace UnitLint

namespace RecordTable

/-- The lines that are no records are reported, and nothing else is. -/
theorem events_readLines (lines : List String) (before : RecordTable × Nat) :
    (lines.foldlM readLine before).events =
      (lines.filter fun line => (Record.ofLine? line).isNone).map .lineSkipped := by
  have hline : ∀ before line, (readLine before line).events =
      if (Record.ofLine? line).isNone then [.lineSkipped line] else [] := by
    intro before line
    rw [readLine]
    split
    · next hrecord => simp [hrecord]
    · next hnone => simp [hnone, Traced.report]
  rw [Traced.events_foldlM hline]
  induction lines with
  | nil => rfl
  | cons line lines ih =>
    rw [List.flatMap_cons, ih]
    cases hrecord : Record.ofLine? line <;> simp [hrecord]

theorem events_read (text : String) :
    (read text).events =
      (skippedLines text).map .lineSkipped ++
        [.recordsRead (ofText text).size (skippedLines text).length] := by
  rw [read, Traced.events_bind, events_readLines, value_readLines, Nat.zero_add]
  rfl

/-- The settings that have an entry are the members of a list. -/
theorem setOf_isSome_get? (table : RecordTable) :
    {setting | (table.get? setting).isSome} = (table.settings.toFinset : Set Setting) := by
  apply Set.ext
  intro setting
  simp [mem_settings]

/-- A counter that is right tells how many settings have an entry. -/
theorem Counted.size_eq_ncard {table : RecordTable} (h : table.Counted) :
    table.size = {setting | (table.get? setting).isSome}.ncard := by
  rw [h, setOf_isSome_get?, Set.ncard_coe_finset, List.toFinset_card_of_nodup table.nodup_settings]

end RecordTable

namespace Registry

/-- Where no registry is built, nothing is reported. -/
theorem events_ofSource_of_error {source : Source} {error : LoadError}
    (h : (ofSource source).value = .error error) : (ofSource source).events = [] := by
  rw [value_ofSource] at h
  rw [ofSource]
  cases hcatalog : Catalog.ofText source.catalogText with
  | error fault => rfl
  | ok catalog =>
    cases hempty : catalog.isEmpty with
    | true => simp [hempty]
    | false => simp [hcatalog, hempty] at h

/-- What is reported where a registry is built, told by the counters of the tables. -/
theorem events_ofSource_of_ok {source : Source} {registry : Registry}
    (h : (ofSource source).value = .ok registry) :
    (ofSource source).events =
      (RecordTable.read source.recordText).events ++
        ((if registry.records.isEmpty then [.noRecords] else []) ++
          [.loaded registry.catalog.sectionNames.length registry.catalog.keywordCount
            registry.records.size]) := by
  obtain ⟨catalog, hcatalog, hsections, rfl⟩ := ofSource_eq_ok_iff.1 h
  rw [ofSource, hcatalog]
  simp only [hsections, Bool.false_eq_true, if_false, Traced.events_bind, RecordTable.value_read]
  rw [warnIfEmpty]
  split <;> simp [Traced.report]

/-- The reports of building a registry are, in order: every line of the record table that is no
record, as it stands there; the number of settings that have a record, and of the lines passed over;
a warning exactly if no line is a record; and how many sections, how many keys in all of them, and
how many settings with the name of a validator the registry knows. -/
theorem ofSource_reports_contents {source : Source} {registry : Registry}
    (hload : (ofSource source).value = .ok registry) :
    (ofSource source).events =
      (RecordTable.skippedLines source.recordText).map .lineSkipped ++
        (.recordsRead ((RecordTable.recordsOf source.recordText).map Record.setting).dedup.length
            (RecordTable.skippedLines source.recordText).length ::
          ((if (RecordTable.recordsOf source.recordText).isEmpty then [.noRecords] else []) ++
            [.loaded registry.catalog.sectionNames.length
              (registry.catalog.sectionNames.map fun sectionName =>
                (registry.catalog.keysIn sectionName).length).sum
              {setting | (registry.validatorName? setting).isSome}.ncard])) ∧
    {setting | (registry.validatorName? setting).isSome}.Finite ∧
    (ofSource source).events.map Event.level =
      List.replicate (RecordTable.skippedLines source.recordText).length .trace ++
        (.trace :: ((if (RecordTable.recordsOf source.recordText).isEmpty then [.warn] else []) ++
          [.debug])) := by
  have hrecords : registry.records = RecordTable.ofText source.recordText := by
    obtain ⟨catalog, -, -, rfl⟩ := ofSource_eq_ok_iff.1 hload
    rfl
  have hempty : registry.records.isEmpty = (RecordTable.recordsOf source.recordText).isEmpty := by
    rw [Bool.eq_iff_iff, hrecords, RecordTable.isEmpty_ofText_iff, List.isEmpty_iff,
      RecordTable.recordsOf, List.filterMap_eq_nil_iff]
  have hvalidated : registry.records.size =
      {setting | (registry.validatorName? setting).isSome}.ncard := by
    apply RecordTable.Counted.size_eq_ncard
    rw [hrecords]
    exact RecordTable.counted_ofRecords _
  have hfinite : {setting | (registry.validatorName? setting).isSome}.Finite := by
    show {setting | (registry.records.get? setting).isSome}.Finite
    rw [RecordTable.setOf_isSome_get?]
    exact Finset.finite_toSet _
  have hevents := events_ofSource_of_ok hload
  rw [RecordTable.events_read, RecordTable.ofText, RecordTable.size_ofRecords, hempty, hvalidated,
    Catalog.keywordCount_eq_sum, List.append_assoc, List.singleton_append] at hevents
  refine ⟨hevents, hfinite, ?_⟩
  rw [hevents]
  split
  · simp [Event.level, Function.comp_def]
  · simp [Event.level, Function.comp_def]

/-- Of a line that is no record and two records for one setting, the line is reported and the
setting counted once. -/
theorem ofSource_reports_contents_repeated :
    ∃ registry, (ofSource (.ofTexts "\x7b\"Unit\":\x7b\x7d\x7d"
          "%%\nUnit.After, NULL, 0\nUnit.After, config_parse_bool, 0\n")).value = .ok registry ∧
      (ofSource (.ofTexts "\x7b\"Unit\":\x7b\x7d\x7d"
          "%%\nUnit.After, NULL, 0\nUnit.After, config_parse_bool, 0\n")).events =
        [.lineSkipped "%%", .recordsRead 1 1, .loaded 1 0 1] ∧
      {setting | (registry.validatorName? setting).isSome}.ncard = 1 := by
  have hload := value_ofSource_bare
    "%%\nUnit.After, NULL, 0\nUnit.After, config_parse_bool, 0\n"
  obtain ⟨hevents, -, -⟩ := ofSource_reports_contents hload
  have hlog : (ofSource (.ofTexts "\x7b\"Unit\":\x7b\x7d\x7d"
      "%%\nUnit.After, NULL, 0\nUnit.After, config_parse_bool, 0\n")).events =
        [.lineSkipped "%%", .recordsRead 1 1, .loaded 1 0 1] := by decide +kernel
  refine ⟨_, hload, hlog, ?_⟩
  rw [hlog] at hevents
  have hlast := congrArg List.getLast? hevents
  rw [← List.cons_append, ← List.append_assoc, List.getLast?_concat] at hlast
  exact (Event.loaded.inj (Option.some.inj hlast)).2.2.symm

end Registry

end UnitLint
