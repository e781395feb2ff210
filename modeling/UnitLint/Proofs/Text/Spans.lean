import Mathlib.Data.List.DropRight
import Mathlib.Data.List.TakeWhile
import UnitLint.Proofs.Text.Digit
import UnitLint.Text.Blank
import UnitLint.Text.WordChar

/-!
# Spans

Texts are taken apart kind by kind: as many characters of one kind as there are, then as many of
another. Where such a span ends is told by its characters and the one behind it, so a text can be
taken apart in one way only. Blanks and word characters are kinds of which no character has both.
-/

namespace UnitLint.Text

variable {kind : Char → Bool} {span span' rest rest' : List Char}

/-- Whether a text does not begin with a character of a kind, so that a span in front of it ends. -/
def EndsSpan (kind : Char → Bool) (rest : List Char) : Prop :=
  ∀ c ∈ rest.head?, kind c = false

theorem EndsSpan.cons {c : Char} (hc : kind c = false) (rest : List Char) :
    EndsSpan kind (c :: rest) := by
  intro d hd
  obtain rfl := Option.some.inj hd
  exact hc

theorem EndsSpan.append (hspan : ∀ c ∈ span, kind c = false) (hrest : EndsSpan kind rest) :
    EndsSpan kind (span ++ rest) := by
  cases span with
  | nil => exact hrest
  | cons c span => exact .cons (hspan c List.mem_cons_self) (span ++ rest)

theorem EndsSpan.append_of_ne_nil (hne : span ≠ []) (hspan : ∀ c ∈ span, kind c = false)
    (rest : List Char) : EndsSpan kind (span ++ rest) := by
  cases span with
  | nil => exact absurd rfl hne
  | cons c span => exact .cons (hspan c List.mem_cons_self) (span ++ rest)

theorem EndsSpan.of_forall (h : ∀ c ∈ rest, kind c = false) : EndsSpan kind rest :=
  fun c hc => h c (List.mem_of_head? hc)

/-- What is left behind a span ends it. -/
theorem endsSpan_dropWhile (kind : Char → Bool) (cs : List Char) :
    EndsSpan kind (cs.dropWhile kind) := by
  intro c hc
  have hhead := List.head?_dropWhile_not kind cs
  rwa [Option.mem_def.1 hc] at hhead

theorem takeWhile_span (hspan : ∀ c ∈ span, kind c) (hrest : EndsSpan kind rest) :
    (span ++ rest).takeWhile kind = span := by
  rw [List.takeWhile_append_of_pos hspan]
  cases rest with
  | nil => exact List.append_nil span
  | cons c rest => rw [List.takeWhile_cons_of_neg (by simp [hrest c rfl]), List.append_nil]

theorem EndsSpan.takeWhile_eq_nil (h : EndsSpan kind rest) : rest.takeWhile kind = [] :=
  takeWhile_span (List.forall_mem_nil _) h

theorem dropWhile_span (hspan : ∀ c ∈ span, kind c) (hrest : EndsSpan kind rest) :
    (span ++ rest).dropWhile kind = rest := by
  rw [List.dropWhile_append_of_pos hspan]
  cases rest with
  | nil => rfl
  | cons c rest => exact List.dropWhile_cons_of_neg (by simp [hrest c rfl])

theorem EndsSpan.dropWhile_eq_self (h : EndsSpan kind rest) : rest.dropWhile kind = rest :=
  dropWhile_span (List.forall_mem_nil _) h

theorem rdropWhile_of_forall (h : ∀ c ∈ rest, kind c = false) : rest.rdropWhile kind = rest := by
  have hreverse : EndsSpan kind rest.reverse :=
    .of_forall fun c hc => h c (List.mem_reverse.1 hc)
  rw [List.rdropWhile, hreverse.dropWhile_eq_self, List.reverse_reverse]

/-- What is left behind a span is all that the text holds behind some span that ends there. -/
theorem dropWhile_eq_iff {cs : List Char} :
    cs.dropWhile kind = rest ↔
      ∃ span, (∀ c ∈ span, kind c) ∧ EndsSpan kind rest ∧ cs = span ++ rest := by
  constructor
  · rintro rfl
    exact ⟨cs.takeWhile kind, fun c hc => List.mem_takeWhile_imp hc, endsSpan_dropWhile kind cs,
      List.takeWhile_append_dropWhile.symm⟩
  · rintro ⟨span, hspan, hrest, rfl⟩
    exact dropWhile_span hspan hrest

/-- A text is divided into a span and what ends it in one way only. -/
theorem span_unique (hspan : ∀ c ∈ span, kind c) (hrest : EndsSpan kind rest)
    (hspan' : ∀ c ∈ span', kind c) (hrest' : EndsSpan kind rest')
    (h : span ++ rest = span' ++ rest') : span = span' ∧ rest = rest' := by
  obtain rfl : span = span' := by
    rw [← takeWhile_span hspan hrest, h, takeWhile_span hspan' hrest']
  exact ⟨rfl, List.append_cancel_left h⟩

/-- A text is divided at the first of its marks in one way only. -/
theorem firstMark_unique {mark : Char} (hspan : mark ∉ span) (hspan' : mark ∉ span')
    (h : span ++ mark :: rest = span' ++ mark :: rest') : span = span' ∧ rest = rest' := by
  have hothers : ∀ cs : List Char, mark ∉ cs → ∀ c ∈ cs, (c != mark) = true := by
    intro cs hcs c hc
    rw [bne_iff_ne]
    rintro rfl
    exact hcs hc
  have hmark : ∀ cs, EndsSpan (· != mark) (mark :: cs) := fun cs => .cons (by simp) cs
  obtain ⟨hfront, hbehind⟩ :=
    span_unique (hothers _ hspan) (hmark rest) (hothers _ hspan') (hmark rest') h
  exact ⟨hfront, (List.cons.inj hbehind).2⟩

/-- What is dropped at the end of a text may as well be longer. -/
theorem rdropWhile_append_span (hspan : ∀ c ∈ span, kind c) (cs : List Char) :
    (cs ++ span).rdropWhile kind = cs.rdropWhile kind := by
  have hreverse : ∀ c ∈ span.reverse, kind c := by
    intro c hc
    exact hspan c (List.mem_reverse.1 hc)
  rw [List.rdropWhile, List.reverse_append, List.dropWhile_append_of_pos hreverse,
    List.rdropWhile]

/-- What is dropped in front of a character of another kind ends there at the latest. -/
theorem dropWhile_append_cons {c : Char} (hc : kind c = false) (before behind : List Char) :
    (before ++ c :: behind).dropWhile kind = before.dropWhile kind ++ c :: behind := by
  rw [List.dropWhile_append]
  split
  · next hempty =>
    rw [List.isEmpty_iff.1 hempty, List.nil_append, List.dropWhile_cons_of_neg (by simp [hc])]
  · rfl

theorem rdropWhile_append_cons {c : Char} (hc : kind c = false) (before behind : List Char) :
    (before ++ c :: behind).rdropWhile kind = before ++ c :: behind.rdropWhile kind := by
  rw [List.rdropWhile, List.reverse_append, List.reverse_cons, List.append_assoc,
    List.singleton_append, dropWhile_append_cons hc, List.rdropWhile]
  simp

/-! ## Blanks and word characters -/

/-- The first and the last code point of each run of blanks. -/
def blankRanges : List (Nat × Nat) :=
  [(0x9, 0xD), (0x20, 0x20), (0x85, 0x85), (0xA0, 0xA0), (0x1680, 0x1680), (0x2000, 0x200A),
    (0x2028, 0x2029), (0x202F, 0x202F), (0x205F, 0x205F), (0x3000, 0x3000)]

theorem isBlank_eq (c : Char) :
    isBlank c = blankRanges.any fun (first, last) => first ≤ c.toNat && c.toNat ≤ last := by
  rw [Bool.eq_iff_iff]
  simp only [isBlank, Bool.or_eq_true, Bool.and_eq_true, decide_eq_true_eq, beq_iff_eq,
    le_iff_toNat_le, ← Char.toNat_inj, Char.reduceToNat, blankRanges, List.any_cons, List.any_nil]
  grind

/-- Between the space and the control characters beyond ASCII there are no blanks. -/
theorem isBlank_of_printable {c : Char} (hlow : 0x20 < c.toNat) (hhigh : c.toNat < 0x85) :
    isBlank c = false := by
  rw [isBlank_eq, List.any_eq_false]
  simp only [blankRanges, List.forall_mem_cons, Bool.and_eq_true, decide_eq_true_eq,
    List.not_mem_nil, false_imp_iff, implies_true, and_true]
  omega

/-- No range of blanks meets one of word characters. -/
theorem blankRanges_apart :
    (blankRanges.all fun blank => wordRanges.all fun word =>
      word.2.blt blank.1 || blank.2.blt word.1) = true := by
  decide +kernel

theorem isWordChar_of_isBlank {c : Char} (h : isBlank c) : isWordChar c = false := by
  rw [isBlank_eq, List.any_eq_true] at h
  obtain ⟨blank, hblank, hrange⟩ := h
  rw [isWordChar, List.any_eq_false]
  intro word hword
  have hapart := List.all_eq_true.1 (List.all_eq_true.1 blankRanges_apart blank hblank) word hword
  simp only [Bool.or_eq_true, Nat.blt_eq] at hapart
  simp only [Bool.and_eq_true, decide_eq_true_eq] at hrange ⊢
  omega

theorem isBlank_of_isWordChar {c : Char} (h : isWordChar c) : isBlank c = false := by
  cases hblank : isBlank c with
  | false => rfl
  | true =>
    rw [isWordChar_of_isBlank hblank] at h
    contradiction

end UnitLint.Text
