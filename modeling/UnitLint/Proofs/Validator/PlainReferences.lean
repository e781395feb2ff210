import UnitLint.Proofs.Uri.LetterHosts
import UnitLint.Proofs.Validator.BareAddresses

/-!
# Plain references

References that nobody would call wrong are accepted, whatever else they hold: a manual page, an
info page or a file with any text behind the colon that does not begin with two slashes, and an
address on the web with a host of letters and any text behind the host. The text has no separators
in it, which would make a list of it, and no control characters, which would not belong to the
address.
-/

namespace UnitLint

/-- The schemes of addresses on the web. -/
def Validator.webSchemes : List Uri.Scheme := [.http, .https]

namespace Uri

variable {scheme : Scheme} {rest : List Char}

theorem splitScheme?_name (scheme : Scheme) (rest : List Char) :
    splitScheme? (scheme.name.toList ++ ':' :: rest) = some (scheme.name.toList, rest) := by
  have hlower : scheme.name.toList.map Char.toLower = scheme.name.toList := by
    cases scheme <;> decide
  exact splitScheme?_spelled hlower rest

/-- Whether a text begins with two slashes, of either kind. -/
def StartsWithSlashes (cs : List Char) : Prop :=
  ∃ first second rest, cs = first :: second :: rest ∧ isSlash first ∧ isSlash second

/-- Only two slashes announce an authority. -/
theorem isRest_hostless (hscheme : scheme ∈ Validator.hostlessSchemes)
    (h : ¬StartsWithSlashes rest) : isRest scheme rest := by
  cases scheme with
  | http | https => exact absurd hscheme (by decide)
  | file =>
    show isFileRest rest = true
    unfold isFileRest
    split
    · next first second rest =>
      rw [if_neg]
      intro hslashes
      rw [Bool.and_eq_true] at hslashes
      exact h ⟨first, second, rest, rfl, hslashes⟩
    · rfl
  | info | man =>
    simp only [isRest]
    split
    · next rest => exact absurd ⟨'/', '/', rest, rfl, rfl, rfl⟩ h
    · rfl

/-- Behind two slashes, a host of letters is all of an authority. -/
theorem isRest_letters (hscheme : scheme ∈ Validator.webSchemes) {labels : List (List Char)}
    (hne : labels ≠ []) (hlabels : ∀ label ∈ labels, label ≠ [] ∧ ∀ c ∈ label, isLetter c)
    (hrest : Text.EndsSpan (!endsAuthority .domain ·) rest) :
    isRest scheme ('/' :: '/' :: (['.'].intercalate labels ++ rest)) := by
  have hmarks : ∀ {c : Char}, isLetter c = false → c ≠ '.' → c ∉ ['.'].intercalate labels :=
    Host.not_mem_letters fun label hlabel => (hlabels label hlabel).2
  have hdomain := Host.isDomainHost_letters hne hlabels
  have hhost : ['.'].intercalate labels ≠ [] := by
    intro hempty
    rw [hempty] at hdomain
    exact absurd hdomain (by decide +kernel)
  have hinside : ∀ c ∈ ['.'].intercalate labels, endsAuthority .domain c = false := by
    intro c hc
    rw [← Bool.not_eq_true]
    intro hend
    simp only [endsAuthority, Bool.or_eq_true, Bool.and_eq_true, beq_iff_eq] at hend
    rcases hend with ((rfl | rfl) | rfl) | ⟨-, rfl⟩ <;>
      exact hmarks (by decide) (by decide) hc
  have hslashes : ('/' :: '/' :: (['.'].intercalate labels ++ rest)).dropWhile isSlash =
      ['.'].intercalate labels ++ rest := by
    have hends : Text.EndsSpan isSlash (['.'].intercalate labels ++ rest) := by
      refine Text.EndsSpan.append_of_ne_nil hhost (fun c hc => ?_) rest
      rw [← Bool.not_eq_true, isSlash, Bool.or_eq_true, beq_iff_eq, beq_iff_eq]
      rintro (rfl | rfl)
      · exact hmarks (by decide) (by decide) hc
      · exact hmarks (by decide) (by decide) hc
    have hspan : ∀ c ∈ ['/', '/'], isSlash c := List.all_eq_true.1 rfl
    exact Text.dropWhile_span hspan hends
  have hauthority := startsWithAuthority_host hinside (hmarks (by decide) (by decide))
    (hmarks (by decide) (by decide)) hrest
  rw [decide_eq_true hhost, hdomain] at hauthority
  cases scheme with
  | http | https =>
    show startsWithAuthority .domain _ = true
    rw [hslashes, hauthority]
    rfl
  | file | info | man => exact absurd hscheme (by decide)

end Uri

namespace Validator

variable {scheme : Uri.Scheme} {rest : String}

/-- Whether a character is neither white space nor a comma nor a control character. -/
def IsPlain (c : Char) : Prop :=
  Text.isBlank c = false ∧ c ≠ ',' ∧ ' ' ≤ c

instance : DecidablePred IsPlain := fun c =>
  inferInstanceAs (Decidable (Text.isBlank c = false ∧ c ≠ ',' ∧ ' ' ≤ c))

theorem IsPlain.isSeparator {c : Char} (h : IsPlain c) : isSeparator c = false := by
  rw [Validator.isSeparator, h.1, Bool.false_or, beq_eq_false_iff_ne]
  exact h.2.1

theorem IsPlain.isControlOrSpace {c : Char} (h : IsPlain c) : Uri.isControlOrSpace c = false := by
  obtain ⟨hblank, -, hle⟩ := h
  rw [← Bool.not_eq_true, Uri.isControlOrSpace, decide_eq_true_eq]
  intro hge
  rw [Char.le_antisymm hge hle] at hblank
  exact absurd hblank (by decide)

theorem isPlain_of_isLetter {c : Char} (h : Uri.isLetter c) : IsPlain c := by
  refine ⟨?_, Uri.ne_of_isLetter h (by decide), ?_⟩
  · rw [Uri.isLetter_iff] at h
    simp only [Char.reduceToNat] at h
    exact Text.isBlank_of_printable (by omega) (by omega)
  · have hcontrol := Uri.isControlOrSpace_of_isLetter h
    rw [Uri.isControlOrSpace, decide_eq_false_iff_not] at hcontrol
    exact (Char.le_total ' ' c).resolve_right hcontrol

theorem isPlain_of_mem_letters {labels : List (List Char)}
    (h : ∀ label ∈ labels, label ≠ [] ∧ ∀ c ∈ label, Uri.isLetter c) {c : Char}
    (hc : c ∈ ['.'].intercalate labels) : IsPlain c := by
  rcases Host.mem_of_mem_intercalate hc with rfl | ⟨label, hlabel, hmem⟩
  · decide
  · exact isPlain_of_isLetter ((h label hlabel).2 c hmem)

/-! ## Accepted references -/

theorem toList_reference (scheme : Uri.Scheme) (rest : String) :
    (scheme.name ++ ":" ++ rest).toList = scheme.name.toList ++ ':' :: rest.toList := by
  simp

theorem schemeOf?_plain (hplain : ∀ c ∈ rest.toList, IsPlain c)
    (hrest : Uri.isRest scheme rest.toList) :
    Uri.schemeOf? (scheme.name ++ ":" ++ rest).toList = some scheme := by
  have hkept : ∀ c ∈ scheme.name.toList ++ ':' :: rest.toList, Uri.isControlOrSpace c = false := by
    simp only [List.forall_mem_append, List.forall_mem_cons]
    exact ⟨fun c hc => Uri.isControlOrSpace_of_isLetter (scheme.isLetter_of_mem_name c hc),
      by decide, fun c hc => (hplain c hc).isControlOrSpace⟩
  rw [toList_reference, Uri.schemeOf?_eq_some_iff, Uri.addressChars_of_forall hkept]
  exact ⟨rest.toList, Uri.splitScheme?_name scheme rest.toList, hrest⟩

/-- With some plain characters behind the colon, only an authority can be wrong. -/
theorem isDocumentationUri_plain (hne : rest ≠ "") (hplain : ∀ c ∈ rest.toList, IsPlain c)
    (hrest : Uri.isRest scheme rest.toList) : isDocumentationUri (scheme.name ++ ":" ++ rest) := by
  have hfound := schemeOf?_plain hplain hrest
  have hname : ':' ∉ scheme.name.toList := by
    cases scheme <;> decide
  cases scheme with
  | http | https =>
    rw [isDocumentationUri, hfound]
  | file | info | man =>
    rwa [isDocumentationUri_iff_behindColon (by decide) hfound, toList_reference,
      Uri.behindColon_append_cons hname, ne_eq, String.toList_eq_nil_iff]

/-- An address of plain characters is one entry. -/
theorem accepts_plain (hne : rest ≠ "") (hplain : ∀ c ∈ rest.toList, IsPlain c)
    (hrest : Uri.isRest scheme rest.toList) :
    documentation.diagnose? (scheme.name ++ ":" ++ rest) = none := by
  have hchars := toList_reference scheme rest
  have hentry : ∀ c ∈ (scheme.name ++ ":" ++ rest).toList, isSeparator c = false := by
    rw [hchars]
    simp only [List.forall_mem_append, List.forall_mem_cons]
    exact ⟨fun c hc => (isPlain_of_isLetter (scheme.isLetter_of_mem_name c hc)).isSeparator,
      by decide, fun c hc => (hplain c hc).isSeparator⟩
  have hnonempty : scheme.name ++ ":" ++ rest ≠ "" := by
    intro hempty
    rw [hempty] at hchars
    simp at hchars
  rw [accepts_entry_iff hnonempty hentry, isReference, isDocumentationUri_plain hne hplain hrest,
    Bool.true_or]

/-- An address with a host of letters is accepted, whatever stands behind the host. -/
theorem accepts_letters (hscheme : scheme ∈ webSchemes) {labels : List String} (hne : labels ≠ [])
    (hlabels : ∀ label ∈ labels, label ≠ "" ∧ ∀ c ∈ label.toList, Uri.isLetter c)
    (hplain : ∀ c ∈ rest.toList, IsPlain c)
    (hrest : ∀ c ∈ rest.toList.head?, c = '/' ∨ c = '?' ∨ c = '#') :
    documentation.diagnose? (scheme.name ++ "://" ++ ".".intercalate labels ++ rest) = none := by
  have hcharLabels : ∀ label ∈ labels.map String.toList,
      label ≠ [] ∧ ∀ c ∈ label, Uri.isLetter c := by
    simp only [List.forall_mem_map]
    intro label hlabel
    obtain ⟨hlabelNe, hletters⟩ := hlabels label hlabel
    exact ⟨mt String.toList_eq_nil_iff.1 hlabelNe, hletters⟩
  have hends : Text.EndsSpan (!Uri.endsAuthority .domain ·) rest.toList := by
    intro c hc
    rcases hrest c hc with rfl | rfl | rfl <;> rfl
  have hbehind : ("//" ++ ".".intercalate labels ++ rest).toList =
      '/' :: '/' :: (['.'].intercalate (labels.map String.toList) ++ rest.toList) := by
    simp [String.toList_intercalate]
  have hbehindPlain : ∀ c ∈ ("//" ++ ".".intercalate labels ++ rest).toList, IsPlain c := by
    rw [hbehind]
    simp only [List.forall_mem_cons, List.forall_mem_append]
    exact ⟨by decide, by decide, fun c hc => isPlain_of_mem_letters hcharLabels hc, hplain⟩
  have hnonempty : "//" ++ ".".intercalate labels ++ rest ≠ "" := by
    intro hempty
    rw [hempty] at hbehind
    cases hbehind
  have hcharsNe : labels.map String.toList ≠ [] := by
    rwa [ne_eq, List.map_eq_nil_iff]
  have hparts : scheme.name ++ "://" ++ ".".intercalate labels ++ rest =
      scheme.name ++ ":" ++ ("//" ++ ".".intercalate labels ++ rest) := by
    rw [← String.toList_inj]
    simp
  rw [hparts]
  apply accepts_plain hnonempty hbehindPlain
  rw [hbehind]
  exact Uri.isRest_letters hscheme hcharsNe hcharLabels hends

/-- Plain characters are accepted behind a scheme, and behind a host of letters. -/
theorem diagnose?_plain :
    (∀ scheme ∈ hostlessSchemes, ∀ rest : String, rest ≠ "" → (∀ c ∈ rest.toList, IsPlain c) →
      ¬Uri.StartsWithSlashes rest.toList →
        documentation.diagnose? (scheme.name ++ ":" ++ rest) = none) ∧
      ∀ scheme ∈ webSchemes, ∀ labels : List String, labels ≠ [] →
        (∀ label ∈ labels, label ≠ "" ∧ ∀ c ∈ label.toList, Uri.isLetter c) →
        ∀ rest : String, (∀ c ∈ rest.toList, IsPlain c) →
          (∀ c ∈ rest.toList.head?, c = '/' ∨ c = '?' ∨ c = '#') →
            documentation.diagnose?
              (scheme.name ++ "://" ++ ".".intercalate labels ++ rest) = none := by
  constructor
  · intro scheme hscheme rest hne hplain hslashes
    exact accepts_plain hne hplain (Uri.isRest_hostless hscheme hslashes)
  · intro scheme hscheme labels hne hlabels rest hplain hrest
    exact accepts_letters hscheme hne hlabels hplain hrest

/-- A file on a drive, and a host with a fragment right behind it. -/
theorem diagnose?_plain_drive :
    .file ∈ hostlessSchemes ∧ (∀ c ∈ "C|\\..%\x7f".toList, IsPlain c) ∧
      documentation.diagnose? "file:C|\\..%\x7f" = none ∧
      .https ∈ webSchemes ∧ (∀ c ∈ "#\u202e%@:[".toList, IsPlain c) ∧
      documentation.diagnose? "https://xn.Example#\u202e%@:[" = none := by
  have hfile : .file ∈ hostlessSchemes := by decide
  have hslashes : ¬Uri.StartsWithSlashes "C|\\..%\x7f".toList := by
    rintro ⟨first, second, rest, hrest, hfirst, -⟩
    rw [← (List.cons.inj hrest).1] at hfirst
    contradiction
  have hpath : ∀ c ∈ "C|\\..%\x7f".toList, IsPlain c :=
    List.all_iff_forall_prop.1 (by decide +kernel)
  have hweb : .https ∈ webSchemes := by decide
  have hlabels : ∀ label ∈ ["xn", "Example"], label ≠ "" ∧ ∀ c ∈ label.toList, Uri.isLetter c := by
    rw [List.forall_mem_cons, List.forall_mem_singleton]
    exact ⟨⟨by decide, List.all_eq_true.1 rfl⟩, by decide, List.all_eq_true.1 rfl⟩
  have hfragment : ∀ c ∈ "#\u202e%@:[".toList, IsPlain c :=
    List.all_iff_forall_prop.1 (by decide +kernel)
  have hmark : ∀ c ∈ "#\u202e%@:[".toList.head?, c = '/' ∨ c = '?' ∨ c = '#' := by
    intro c hc
    exact .inr (.inr (Option.some.inj hc).symm)
  have hparts : Uri.Scheme.https.name ++ "://" ++ ".".intercalate ["xn", "Example"] ++
      "#\u202e%@:[" = "https://xn.Example#\u202e%@:[" := by
    decide +kernel
  refine ⟨hfile, hpath, ?_, hweb, hfragment, ?_⟩
  · exact diagnose?_plain.1 .file hfile _ (by decide) hpath hslashes
  · rw [← hparts]
    exact diagnose?_plain.2 .https hweb _ (List.cons_ne_nil _ _) hlabels _ hfragment hmark

end Validator

end UnitLint
