import UnitLint.Proofs.Catalog.Meaning
import UnitLint.Proofs.Registry.Spelling
import UnitLint.Proofs.Text.Spans

/-!
# Truncated catalogs

A catalog whose text has been cut short is never taken for a smaller one. Wherever the cut is, if
what is left of the text could be read then the same object would be read of the whole text, and
nothing but white space could follow it there.
-/

namespace UnitLint

namespace Json

variable {α : Type}

/-- White space at the end of a text is no part of it. -/
theorem length_rdropWhile_le {spacing : List Char} (h : IsSpacing spacing) (cs : List Char) :
    ((cs ++ spacing).rdropWhile isSpace).length ≤ cs.length := by
  rw [Text.rdropWhile_append_span fun c hc => (isSpace_iff c).2 (h c hc)]
  exact (List.rdropWhile_prefix isSpace cs).length_le

/-- Where an object is read, it is read up to its closing mark: in front of that nothing is read,
and behind it nothing is left but white space. -/
theorem Reader.pairs_readText_truncated {item : Reader α} (htakes : item.TakesValues)
    (hlocal : item.IsLocal) {text shorter : String} {pairs : List (String × α)}
    (h : item.pairs.readText text = .ok pairs) (hbegin : shorter.toList <+: text.toList)
    (hshort : shorter.toList.length < (text.toList.rdropWhile isSpace).length) :
    ∃ error, item.pairs.readText shorter = .error error := by
  cases hread' : item.pairs.readText shorter with
  | error error => exact ⟨error, rfl⟩
  | ok pairs' =>
    obtain ⟨rest', hread', -⟩ := readText_eq_ok_iff.1 hread'
    obtain ⟨rest, hread, hrest⟩ := readText_eq_ok_iff.1 h
    obtain ⟨before, spacing, members, hbefore, hspacing, hmembers, heq⟩ := htakes.readPairs hread'
    obtain ⟨more, htext⟩ := hbegin
    have hobject : text.toList = before ++ (objectText spacing members ++ (rest' ++ more)) := by
      rw [← htext, heq]
      simp
    -- the object that the shorter text begins with is read of the longer one, too
    have hends : IsNumeral (objectText spacing members) → EndsNumeral (rest' ++ more) :=
      fun hnumeral => absurd hnumeral (not_isNumeral_objectText spacing members)
    rw [hobject] at hread
    obtain rfl := (pairs_isLocal hlocal).rest_eq hbefore (.of_members hspacing hmembers) hends hread
    have hle := length_rdropWhile_le hrest (before ++ objectText spacing members)
    rw [List.append_assoc, ← hobject] at hle
    have hlength := congrArg List.length heq
    simp only [List.length_append] at hle hlength
    omega

end Json

namespace Registry

open Json

/-- Where the text of a catalog makes a registry, or is found to name no section, every part of it
from its beginning that lacks more than white space is turned away as malformed. -/
theorem ofSource_truncated {source : Source}
    (hload : (∃ registry, (ofSource source).value = .ok registry) ∨
      (ofSource source).value = .error .noSections) {text : String}
    (hbegin : text.toList <+: source.catalogText.toList)
    (hshort : text.toList.length < (source.catalogText.toList.rdropWhile isSpace).length)
    (recordText : String) (library : Library) :
    ∃ error, (ofSource ⟨text, recordText, library⟩).value = .error (.catalog error) := by
  obtain ⟨listing, hlisting⟩ := exists_listing hload
  obtain ⟨error, herror⟩ := Reader.pairs_readText_truncated Keyword.reader_takesValues.pairs
    (Reader.pairs_isLocal Keyword.reader_isLocal) hlisting hbegin hshort
  exact ⟨error, value_ofSource_eq_error herror⟩

/-- The closing mark of the catalog is missing. -/
theorem ofSource_truncated_bare :
    ∃ error, (ofSource ⟨"\x7b\"Unit\":\x7b\x7d", "", .empty⟩).value = .error (.catalog error) := by
  have hload : (ofSource (.ofTexts "\x7b\"Unit\":\x7b\x7d\x7d" "")).value = .ok _ :=
    value_ofSource_bare ""
  exact ofSource_truncated (.inl ⟨_, hload⟩) (by decide) (by decide) "" .empty

end Registry

end UnitLint
