import UnitLint.Document.Blurb
import UnitLint.Proofs.Text.Utf8

/-!
# What comes of an answer

The answer of a store settles the description and the warning together. There is a description if
the answer has bytes that encode it; there is a warning if the answer is a fault or has bytes that
encode nothing. Of what is missing there is neither, and for a name that is not plain no store is
asked.
-/

namespace UnitLint.Document

/-- What comes of the answer to the request for a path. -/
inductive ComesOf (path : String) :
    Except ReadFault (Option ByteArray) → Traced (Option String) → Prop
  | missing : ComesOf path (.ok none) ⟨none, [], [path]⟩
  | text (text : String) : ComesOf path (.ok (some text.toUTF8)) ⟨some text, [], [path]⟩
  /-- The place is told where the bytes stop being the encoding of a text. -/
  | notUtf8 {bytes : ByteArray} {defect : Text.Utf8.Defect}
      (hbytes : ∀ text : String, bytes ≠ text.toUTF8)
      (hbreaks : Text.Utf8.BreaksAt bytes.data.toList defect.start) :
      ComesOf path (.ok (some bytes)) ⟨none, [.blurbNotUtf8 path defect], [path]⟩
  | unreadable (fault : ReadFault) :
      ComesOf path (.error fault) ⟨none, [.blurbUnreadable path fault], [path]⟩

/-- Whether an event is a warning that names a path. -/
def IsWarningOf (path : String) (event : Event) : Prop :=
  event.level = .warn ∧ ("path", .text path) ∈ event.particulars

variable {setting : Setting} {path : String} {answer : Except ReadFault (Option ByteArray)}
  {outcome : Traced (Option String)}

theorem comesOf_blurbOf? :
    ComesOf path answer ⟨(blurbOf? path answer).value, (blurbOf? path answer).events,
      path :: (blurbOf? path answer).requests⟩ := by
  match answer with
  | .error fault => exact .unreadable fault
  | .ok none => exact .missing
  | .ok (some bytes) =>
    cases hdecode : Text.decode bytes with
    | ok text =>
      simp only [blurbOf?, hdecode]
      obtain rfl := Text.decode_eq_ok_iff.1 hdecode
      exact .text text
    | error defect =>
      simp only [blurbOf?, hdecode]
      refine .notUtf8 ?_ (Text.Utf8.breaksAt_of_defect? (Text.decode_eq_error_iff.1 hdecode))
      intro text htext
      rw [Text.decode_eq_ok_iff.2 htext] at hdecode
      cases hdecode

theorem comesOf_blurb? (store : Store) (hplain : isPlain setting) :
    ComesOf (blurbPath setting.sectionName setting.key)
      (store (blurbPath setting.sectionName setting.key)) (blurb? store setting) := by
  rw [blurb?, if_pos hplain]
  exact comesOf_blurbOf?

theorem blurb?_of_not_isPlain (store : Store) (hplain : ¬isPlain setting) :
    blurb? store setting = ⟨none, [], []⟩ := by
  rw [blurb?, if_neg hplain]
  rfl

namespace ComesOf

theorem value_eq_some_iff (h : ComesOf path answer outcome) (text : String) :
    outcome.value = some text ↔ answer = .ok (some text.toUTF8) := by
  cases h with
  | missing => simp
  | text found => simp [String.toByteArray_inj]
  | notUtf8 hbytes => simpa using hbytes text
  | unreadable fault => simp

theorem isWarning_iff (h : ComesOf path answer outcome) :
    (∃ event, outcome.events = [event] ∧ IsWarningOf path event) ↔
      (∃ fault, answer = .error fault) ∨
        ∃ bytes, answer = .ok (some bytes) ∧ ∀ text : String, bytes ≠ text.toUTF8 := by
  cases h with
  | missing => simp
  | text found => simp
  | @notUtf8 bytes defect hbytes =>
    have hwarning : IsWarningOf path (.blurbNotUtf8 path defect) := ⟨rfl, List.mem_cons_self⟩
    exact iff_of_true ⟨_, rfl, hwarning⟩ (.inr ⟨bytes, rfl, hbytes⟩)
  | unreadable fault =>
    have hwarning : IsWarningOf path (.blurbUnreadable path fault) := ⟨rfl, List.mem_cons_self⟩
    exact iff_of_true ⟨_, rfl, hwarning⟩ (.inl ⟨fault, rfl⟩)

theorem events_eq_nil_iff (h : ComesOf path answer outcome) :
    outcome.events = [] ↔ answer = .ok none ∨ ∃ text : String, answer = .ok (some text.toUTF8) := by
  cases h with
  | missing => simp
  | text found => exact iff_of_true rfl (.inr ⟨found, rfl⟩)
  | notUtf8 hbytes => simpa using hbytes
  | unreadable fault => simp

/-- Only warnings come of an answer. -/
theorem level_of_mem (h : ComesOf path answer outcome) {event : Event}
    (hevent : event ∈ outcome.events) : event.level = .warn := by
  cases h with
  | missing | text => cases hevent
  | notUtf8 | unreadable =>
    obtain rfl := List.mem_singleton.1 hevent
    rfl

theorem requests (h : ComesOf path answer outcome) : outcome.requests = [path] := by
  cases h <;> rfl

theorem exists_defect (h : ComesOf path answer outcome) (bytes : ByteArray)
    (hanswer : answer = .ok (some bytes)) (hbytes : ∀ text : String, bytes ≠ text.toUTF8) :
    ∃ defect, outcome.events = [.blurbNotUtf8 path defect] ∧
      Text.Utf8.BreaksAt bytes.data.toList defect.start := by
  cases h with
  | missing | unreadable => cases hanswer
  | text text =>
    cases hanswer
    exact absurd rfl (hbytes text)
  | @notUtf8 _ defect _ hbreaks =>
    cases hanswer
    exact ⟨defect, rfl, hbreaks⟩

end ComesOf

/-- The answer of the store decides on the description of a setting with plain names: bytes that are
the encoding of a text give that text and are passed over in silence, and so is what is missing.
Anything else is warned of once, under the path that was asked for; of bytes that encode no text it
is told how far they do. For other names no store is asked, and there is nothing to tell. -/
theorem blurb?_decided_by_answer (store : Store) (setting : Setting) :
    (isPlain setting → ∀ path, path = blurbPath setting.sectionName setting.key →
      (blurb? store setting).requests = [path] ∧
      (∀ text, (blurb? store setting).value = some text ↔ store path = .ok (some text.toUTF8)) ∧
      ((∃ event, (blurb? store setting).events = [event] ∧ IsWarningOf path event) ↔
        (∃ fault, store path = .error fault) ∨
          ∃ bytes, store path = .ok (some bytes) ∧ ∀ text : String, bytes ≠ text.toUTF8) ∧
      ((blurb? store setting).events = [] ↔
        store path = .ok none ∨ ∃ text : String, store path = .ok (some text.toUTF8)) ∧
      ∀ bytes, store path = .ok (some bytes) → (∀ text : String, bytes ≠ text.toUTF8) →
        ∃ defect, (blurb? store setting).events = [.blurbNotUtf8 path defect] ∧
          Text.Utf8.BreaksAt bytes.data.toList defect.start) ∧
    (¬isPlain setting → blurb? store setting = ⟨none, [], []⟩) := by
  constructor
  · rintro hplain path rfl
    have hcomes := comesOf_blurb? store hplain
    exact ⟨hcomes.requests, hcomes.value_eq_some_iff, hcomes.isWarning_iff,
      hcomes.events_eq_nil_iff, hcomes.exists_defect⟩
  · exact blurb?_of_not_isPlain store

/-- A document without bytes is the empty text. Half of a surrogate pair is no text, and is warned
of. A name that leads elsewhere is not looked up. -/
theorem blurb?_decided_by_answer_surrogate :
    (blurb? (fun _ => .ok (some .empty)) ⟨"Unit", "X"⟩).value = some "" ∧
    (∃ event, (blurb? (fun _ => .ok (some ⟨#[0xED, 0xA0, 0x80]⟩)) ⟨"Unit", "X"⟩).events = [event] ∧
      IsWarningOf "documents/completion/Unit/X.html" event) ∧
    (∃ defect, (blurb? (fun _ => .ok (some ⟨#[0xED, 0xA0, 0x80]⟩)) ⟨"Unit", "X"⟩).events =
        [.blurbNotUtf8 "documents/completion/Unit/X.html" defect] ∧
      Text.Utf8.BreaksAt [0xED, 0xA0, 0x80] defect.start) ∧
    blurb? (fun _ => .ok (some .empty)) ⟨"../Unit", "X"⟩ = ⟨none, [], []⟩ := by
  have hplain : isPlain ⟨"Unit", "X"⟩ := by decide
  have hnotPlain : ¬isPlain ⟨"../Unit", "X"⟩ := by decide
  have hbroken : ¬Text.Utf8.IsUtf8 [0xED, 0xA0, 0x80] := by decide
  have hbytes (text : String) : ⟨#[0xED, 0xA0, 0x80]⟩ ≠ text.toUTF8 := fun htext =>
    hbroken (Text.isUtf8_iff.2 ⟨text, htext⟩)
  obtain ⟨-, hempty, -⟩ := (blurb?_decided_by_answer (fun _ => .ok (some .empty)) _).1 hplain _ rfl
  obtain ⟨-, -, hwarns, -, hbreaks⟩ :=
    (blurb?_decided_by_answer (fun _ => .ok (some ⟨#[0xED, 0xA0, 0x80]⟩)) _).1 hplain _ rfl
  exact ⟨(hempty "").2 rfl, hwarns.2 (.inr ⟨_, rfl, hbytes⟩), hbreaks _ rfl hbytes,
    (blurb?_decided_by_answer _ _).2 hnotPlain⟩

end UnitLint.Document
