import UnitLint.Event

/-!
# Traced computations

A computation that leaves a trace: the events it reports and the paths it asks stores for, each in
order. Computations one after the other leave their traces one after the other.
-/

namespace UnitLint

/-- A value with the trace of its computation. -/
@[ext] structure Traced (α : Type) where
  value : α
  /-- What was reported. -/
  events : List Event
  /-- The paths that stores were asked for. -/
  requests : List String

namespace Traced

instance : Monad Traced where
  pure value := ⟨value, [], []⟩
  bind first next :=
    let second := next first.value
    ⟨second.value, first.events ++ second.events, first.requests ++ second.requests⟩

@[simp] theorem value_pure {α : Type} (a : α) : (pure a : Traced α).value = a := rfl

@[simp] theorem events_pure {α : Type} (a : α) : (pure a : Traced α).events = [] := rfl

@[simp] theorem requests_pure {α : Type} (a : α) : (pure a : Traced α).requests = [] := rfl

@[simp] theorem value_bind {α β : Type} (first : Traced α) (next : α → Traced β) :
    (first >>= next).value = (next first.value).value := rfl

@[simp] theorem events_bind {α β : Type} (first : Traced α) (next : α → Traced β) :
    (first >>= next).events = first.events ++ (next first.value).events := rfl

@[simp] theorem requests_bind {α β : Type} (first : Traced α) (next : α → Traced β) :
    (first >>= next).requests = first.requests ++ (next first.value).requests := rfl

@[simp] theorem value_map {α β : Type} (f : α → β) (traced : Traced α) :
    (f <$> traced).value = f traced.value := rfl

@[simp] theorem events_map {α β : Type} (f : α → β) (traced : Traced α) :
    (f <$> traced).events = traced.events := List.append_nil _

@[simp] theorem requests_map {α β : Type} (f : α → β) (traced : Traced α) :
    (f <$> traced).requests = traced.requests := List.append_nil _

instance : LawfulMonad Traced := LawfulMonad.mk' Traced
  (fun _ => Traced.ext rfl (List.append_nil _) (List.append_nil _))
  (fun _ _ => rfl)
  (fun _ _ _ => Traced.ext rfl (List.append_assoc _ _ _) (List.append_assoc _ _ _))

/-- Steps taken one after the other give what the steps give without their traces. -/
theorem value_foldlM {σ α : Type} (step : σ → α → Traced σ) (init : σ) (items : List α) :
    (items.foldlM step init).value =
      items.foldl (fun state item => (step state item).value) init := by
  induction items generalizing init with
  | nil => rfl
  | cons item items ih => exact ih (step init item).value

/-- Steps that report the same whatever the state is leave the reports of their items, in order. -/
theorem events_foldlM {σ α : Type} {step : σ → α → Traced σ} {reports : α → List Event}
    (h : ∀ state item, (step state item).events = reports item) (init : σ) (items : List α) :
    (items.foldlM step init).events = items.flatMap reports := by
  induction items generalizing init with
  | nil => rfl
  | cons item items ih => rw [List.foldlM_cons, events_bind, h, ih, List.flatMap_cons]

/-- Steps that ask for nothing ask for nothing together. -/
theorem requests_foldlM {σ α : Type} {step : σ → α → Traced σ}
    (h : ∀ state item, (step state item).requests = []) (init : σ) (items : List α) :
    (items.foldlM step init).requests = [] := by
  induction items generalizing init with
  | nil => rfl
  | cons item items ih => rw [List.foldlM_cons, requests_bind, h, ih, List.nil_append]

/-- Reports an event. -/
def report (event : Event) : Traced Unit := ⟨(), [event], []⟩

/-- Asks a store for the document at a path. -/
def ask (store : Document.Store) (path : String) :
    Traced (Except Document.ReadFault (Option ByteArray)) :=
  ⟨store path, [], [path]⟩

end Traced

end UnitLint
