import Mathlib.Data.Bool.AllAny
import UnitLint.Proofs.Text.Utf8
import UnitLint.Proofs.Uri.Address

/-!
# Hosts of letters

A host whose labels are letters of ASCII is a domain name, whatever the labels are: no mapping
changes them but for their case, none of them is an encoded label, and none makes the host an IP
address. Nothing in such a host can be taken for user information or a port either, so it is all of
the authority.
-/

namespace UnitLint

namespace Uri

theorem ne_of_isLetter {c d : Char} (hc : isLetter c) (hd : isLetter d = false) : c ≠ d := by
  rintro rfl
  rw [hc] at hd
  contradiction

theorem toNat_lt_of_isLetter {c : Char} (hc : isLetter c) : c.toNat < 128 := by
  rw [isLetter_iff] at hc
  simp only [Char.reduceToNat] at hc
  omega

theorem isControlOrSpace_of_isLetter {c : Char} (hc : isLetter c) : isControlOrSpace c = false := by
  rw [← Bool.not_eq_true, isControlOrSpace_iff]
  rw [isLetter_iff] at hc
  simp only [Char.reduceToNat] at hc ⊢
  omega

theorem isDigit_of_isLetter {c : Char} (hc : isLetter c) : Text.isDigit c = false := by
  rw [← Bool.not_eq_true, Text.isDigit_iff]
  rw [isLetter_iff] at hc
  simp only [Char.reduceToNat] at hc ⊢
  omega

theorem isLetter_of_mem_map_toLower {label : List Char} (h : ∀ c ∈ label, isLetter c) :
    ∀ c ∈ label.map Char.toLower, isLetter c := by
  intro c hc
  obtain ⟨d, hd, rfl⟩ := List.mem_map.1 hc
  rw [isLetter_toLower]
  exact h d hd

end Uri

/-- Without percent signs, nothing is decoded. -/
theorem Host.percentDecode_of_not_mem {host : List Char} (h : '%' ∉ host) :
    percentDecode host = host.flatMap String.utf8EncodeChar := by
  fun_induction percentDecode host with
  | case1 => exact absurd List.mem_cons_self h
  | case2 => exact absurd List.mem_cons_self h
  | case3 c rest _ ih => rw [ih fun hmem => h (List.mem_cons_of_mem c hmem), List.flatMap_cons]
  | case4 => rfl

namespace Idna

variable {label : List Char}

theorem isForbidden_of_isLetter {c : Char} (hc : Uri.isLetter c) : isForbidden c = false := by
  have hmarks : ∀ d ∈ '\x7f' :: "%#/:<>?@[\\]^|".toList, Uri.isLetter d = false :=
    List.all_iff_forall_prop.1 (by decide +kernel)
  obtain ⟨hdelete, hothers⟩ := List.forall_mem_cons.1 hmarks
  have hcontrol := Uri.isControlOrSpace_of_isLetter hc
  rw [Uri.isControlOrSpace] at hcontrol
  rw [isForbidden, hcontrol, beq_eq_false_iff_ne.2 (Uri.ne_of_isLetter hc hdelete), Bool.false_or,
    Bool.false_or, ← Bool.not_eq_true, List.contains_iff_mem]
  intro hmem
  exact Uri.ne_of_isLetter hc (hothers c hmem) rfl

/-- The marker of an encoded label has hyphens in it. -/
theorem encodedPart?_letters (h : ∀ c ∈ label, Uri.isLetter c) : encodedPart? label = none := by
  rw [encodedPart?, if_neg]
  intro hmarker
  have htaken : ∀ c ∈ label.take 4, Uri.isLetter c := by
    intro c hc
    exact h c (List.mem_of_mem_take hc)
  have hletters := Uri.isLetter_of_mem_map_toLower htaken
  rw [hmarker] at hletters
  exact absurd (hletters '-' (by decide)) (by decide)

theorem isAscii_letters (h : ∀ c ∈ label, Uri.isLetter c) : isAscii label := by
  rw [isAscii, List.all_eq_true]
  intro c hc
  rw [decide_eq_true_eq]
  exact Uri.toNat_lt_of_isLetter (h c hc)

theorem readLabels?_letters (h : ∀ c ∈ label, Uri.isLetter c) :
    readLabels? label = some [label.map Char.toLower] := by
  have hforbidden : ¬(label.map Char.toLower).any isForbidden := by
    rw [List.any_eq_true]
    rintro ⟨c, hc, hbad⟩
    rw [isForbidden_of_isLetter (Uri.isLetter_of_mem_map_toLower h c hc)] at hbad
    contradiction
  rw [readLabels?, if_pos (isAscii_letters h), readAsciiLabel?, encodedPart?_letters h]
  simp only [if_neg hforbidden, Option.map_some]

theorem isRightToLeft_of_isLetter {c : Char} (hc : Uri.isLetter c) : isRightToLeft c = false := by
  have hlow := Uri.toNat_lt_of_isLetter hc
  rw [isRightToLeft, Bool.and_eq_false_iff, decide_eq_false_iff_not, Text.le_iff_toNat_le]
  simp only [Char.reduceToNat]
  omega

theorem mapM_readLabels?_letters {labels : List (List Char)}
    (h : ∀ label ∈ labels, ∀ c ∈ label, Uri.isLetter c) :
    labels.mapM readLabels? = some (labels.map fun label => [label.map Char.toLower]) := by
  induction labels with
  | nil => rfl
  | cons label labels ih =>
    obtain ⟨hlabel, hlabels⟩ := List.forall_mem_cons.1 h
    rw [List.mapM_cons, readLabels?_letters hlabel, ih hlabels]
    rfl

/-- A domain name of letters is read label by label, in lower case. -/
theorem readDomain?_letters {labels : List (List Char)} (hne : labels ≠ [])
    (h : ∀ label ∈ labels, ∀ c ∈ label, Uri.isLetter c) :
    readDomain? ((['.'].intercalate labels).flatMap String.utf8EncodeChar) =
      some (labels.map (·.map Char.toLower)) := by
  have hdots : ∀ label ∈ labels, '.' ∉ label := by
    intro label hlabel hdot
    exact absurd (h label hlabel '.' hdot) (by decide)
  have hlabels : (labels.map fun label => [label.map Char.toLower]).flatten =
      labels.map (·.map Char.toLower) := by
    rw [← List.flatMap_def, List.map_eq_flatMap]
  have hleftToRight : ¬(labels.map (·.map Char.toLower)).any (·.any isRightToLeft) := by
    simp only [List.any_eq_true, not_exists, not_and]
    intro label hlabel c hc hright
    obtain ⟨given, hgiven, rfl⟩ := List.mem_map.1 hlabel
    rw [isRightToLeft_of_isLetter (Uri.isLetter_of_mem_map_toLower (h given hgiven) c hc)] at hright
    contradiction
  rw [readDomain?, Text.fromUTF8?_flatMap]
  simp only [Option.map_some, String.toList_ofList, List.splitOn_intercalate '.' hdots hne,
    mapM_readLabels?_letters h, hlabels]
  exact if_neg fun hmixed => hleftToRight hmixed.1

end Idna

namespace Host

theorem digit?_of_isLetter {c : Char} (hc : Uri.isLetter c) : Text.digit? 10 c = none := by
  rw [Uri.isLetter_iff] at hc
  simp only [Char.reduceToNat] at hc
  simp only [Text.digit?, Text.le_iff_toNat_le, Char.reduceToNat, Option.filter_eq_none_iff,
    decide_eq_true_eq]
  split
  · omega
  · split
    · simp
    · split
      · simp
      · simp

/-- A label that begins with a letter is no number. -/
theorem number?_of_isLetter {c : Char} (hc : Uri.isLetter c) (label : List Char) :
    Ipv4.number? (c :: label) = none := by
  have hzero : c ≠ '0' := Uri.ne_of_isLetter hc (by decide)
  unfold Ipv4.number?
  split
  · next hnil => cases hnil
  · next hcons => exact absurd (List.cons.inj hcons).1 hzero
  · rw [Text.numeral?, List.mapM_cons, digit?_of_isLetter hc]
    rfl

/-- A domain name whose labels are of letters is not meant as an IP address. -/
theorem endsInNumber_letters {labels : List (List Char)}
    (h : ∀ label ∈ labels, label ≠ [] ∧ ∀ c ∈ label, Uri.isLetter c) :
    Ipv4.endsInNumber labels = false := by
  have hend : Ipv4.dropEmptyEnd labels = labels := by
    rw [Ipv4.dropEmptyEnd, if_neg]
    intro hempty
    exact (h [] (List.mem_of_getLast? hempty)).1 rfl
  rw [Ipv4.endsInNumber, hend]
  split
  · rfl
  · next last hlast =>
    obtain ⟨hne, hletters⟩ := h last (List.mem_of_getLast? hlast)
    cases last with
    | nil => contradiction
    | cons c label =>
      have hc := hletters c List.mem_cons_self
      rw [number?_of_isLetter hc, List.all_cons, Uri.isDigit_of_isLetter hc, Bool.false_and,
        Bool.and_false]
      rfl

theorem mem_of_mem_intercalate {labels : List (List Char)} {c : Char}
    (h : c ∈ ['.'].intercalate labels) : c = '.' ∨ ∃ label ∈ labels, c ∈ label := by
  induction labels with
  | nil => contradiction
  | cons label rest ih =>
    cases rest with
    | nil => exact .inr ⟨label, List.mem_cons_self, by simpa using h⟩
    | cons next rest =>
      rw [List.intercalate_cons_cons, List.mem_append, List.mem_append, List.mem_singleton] at h
      rcases h with (hlabel | hdot) | hrest
      · exact .inr ⟨label, List.mem_cons_self, hlabel⟩
      · exact .inl hdot
      · exact (ih hrest).imp_right fun ⟨label, hmem, hc⟩ =>
          ⟨label, List.mem_cons_of_mem _ hmem, hc⟩

/-- In a host of letters, other characters than the dot do not occur. -/
theorem not_mem_letters {labels : List (List Char)}
    (h : ∀ label ∈ labels, ∀ c ∈ label, Uri.isLetter c) {c : Char} (hc : Uri.isLetter c = false)
    (hdot : c ≠ '.') : c ∉ ['.'].intercalate labels := by
  intro hmem
  rcases mem_of_mem_intercalate hmem with rfl | ⟨label, hlabel, hmem⟩
  · exact hdot rfl
  · exact Uri.ne_of_isLetter (h label hlabel c hmem) hc rfl

theorem isDomainHost_letters {labels : List (List Char)} (hne : labels ≠ [])
    (h : ∀ label ∈ labels, label ≠ [] ∧ ∀ c ∈ label, Uri.isLetter c) :
    isDomainHost (['.'].intercalate labels) := by
  have hletters : ∀ label ∈ labels, ∀ c ∈ label, Uri.isLetter c := by
    intro label hlabel
    exact (h label hlabel).2
  have hbracket : bracketed? (['.'].intercalate labels) = none := by
    have hopening := not_mem_letters hletters (c := '[') (by decide) (by decide)
    unfold bracketed?
    split
    · next rest hhost => exact absurd (hhost ▸ List.mem_cons_self) hopening
    · rfl
  have hlower : ∀ label ∈ labels.map (·.map Char.toLower),
      label ≠ [] ∧ ∀ c ∈ label, Uri.isLetter c := by
    intro label hlabel
    obtain ⟨given, hgiven, rfl⟩ := List.mem_map.1 hlabel
    obtain ⟨hgivenNe, hgivenLetters⟩ := h given hgiven
    exact ⟨by simpa using hgivenNe, Uri.isLetter_of_mem_map_toLower hgivenLetters⟩
  have hempty : labels.map (·.map Char.toLower) ≠ [[]] := by
    intro hsole
    rw [hsole] at hlower
    exact (hlower [] List.mem_cons_self).1 rfl
  have hpercent := not_mem_letters hletters (c := '%') (by decide) (by decide)
  rw [isDomainHost, hbracket, percentDecode_of_not_mem hpercent,
    Idna.readDomain?_letters hne hletters]
  simp only [endsInNumber_letters hlower, decide_eq_true hempty]
  rfl

end Host

namespace Uri

theorem splitHost_of_not_mem {cs : List Char} (h : ':' ∉ cs) (inBrackets : Bool) :
    splitHost inBrackets cs = (cs, []) := by
  induction cs generalizing inBrackets with
  | nil => rfl
  | cons c cs ih =>
    rw [List.mem_cons, not_or] at h
    rw [splitHost, if_neg fun hcolon => h.1 hcolon.1.symm, ih h.2]

theorem splitUser_of_not_mem {cs : List Char} (h : '@' ∉ cs) : splitUser cs = (none, cs) := by
  have hnone : cs.reverse.dropWhile (· ≠ '@') = [] := by
    rw [List.dropWhile_eq_nil_iff]
    intro c hc
    rw [decide_eq_true_eq]
    rintro rfl
    exact h (List.mem_reverse.1 hc)
  rw [splitUser, hnone]

/-- Without user information and a port, the authority is a host. -/
theorem startsWithAuthority_host {host rest : List Char}
    (hhost : ∀ c ∈ host, endsAuthority .domain c = false) (huser : '@' ∉ host)
    (hport : ':' ∉ host) (hrest : Text.EndsSpan (!endsAuthority .domain ·) rest) :
    startsWithAuthority .domain (host ++ rest) = (host ≠ [] && Host.isDomainHost host) := by
  have hspan : ∀ c ∈ host, (!endsAuthority .domain c) = true := by
    intro c hc
    rw [hhost c hc, Bool.not_false]
  rw [startsWithAuthority, Text.takeWhile_span hspan hrest, splitUser_of_not_mem huser]
  simp [splitHost_of_not_mem hport]

end Uri

end UnitLint
