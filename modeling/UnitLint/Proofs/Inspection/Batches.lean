import UnitLint.Proofs.Inspection.Verdict

/-!
# Inspections in parts

Properties may be inspected all at once, in batches, or one after the other behind problems that
were found before. The problems are the same and come in the same order, and so do the reports:
each problem is reported once, when it is found.
-/

namespace UnitLint

/-- The report of a problem. -/
def Problem.event (problem : Problem) : Event :=
  .valueRejected problem.setting problem.message

namespace Inspection

/-- Problems found before stay in front and have no part in what an inspection finds. -/
theorem inspect_append (registry : Registry) (before problems : List Problem)
    (property : Property) :
    inspect registry (before ++ problems) property =
      (before ++ ·) <$> inspect registry problems property := by
  rw [inspect, inspect]
  cases problem? registry property with
  | none => rfl
  | some problem => simp

/-- Inspecting one property after the other adds what inspecting all of them finds. -/
theorem foldlM_inspect (registry : Registry) (problems : List Problem)
    (properties : List Property) :
    properties.foldlM (inspect registry) problems =
      (problems ++ ·) <$> check registry properties := by
  have hfold : ∀ later, properties.foldlM (inspect registry) (problems ++ later) =
      (problems ++ ·) <$> properties.foldlM (inspect registry) later := by
    induction properties with
    | nil => exact fun _ => rfl
    | cons property properties ih =>
      intro later
      rw [List.foldlM_cons, List.foldlM_cons, inspect_append, map_bind, bind_map_left]
      exact bind_congr ih
  rw [check, ← hfold, List.append_nil]

/-- Two batches of properties are inspected as one. -/
theorem check_append (registry : Registry) (first second : List Property) :
    check registry (first ++ second) = do
      let before ← check registry first
      let behind ← check registry second
      return before ++ behind := by
  rw [check, List.foldlM_append]
  apply bind_congr
  intro before
  rw [foldlM_inspect, map_eq_pure_bind]

/-- The problem with a property is reported when it is found. -/
theorem events_inspect (registry : Registry) (problems : List Problem) (property : Property) :
    (inspect registry problems property).events =
      (problem? registry property).toList.map Problem.event := by
  rw [inspect]
  cases problem? registry property with
  | none => rfl
  | some problem => rfl

/-- The reports of an inspection are those of the problems that it finds, in the same order. -/
theorem events_check (registry : Registry) (properties : List Property) :
    (check registry properties).events = (check registry properties).value.map Problem.event := by
  rw [check, Traced.events_foldlM (events_inspect registry), ← List.map_flatMap,
    ← List.filterMap_eq_flatMap_toList, ← value_check]
  rfl

end Inspection

end UnitLint
