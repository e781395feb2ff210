import UnitLint.Idna.Mapping.Table

/-!
# Mapping of host names

Before a host name is split and checked, each of its characters is replaced by the form in which it
may be registered: letters lose their case, presentation forms become the characters they present,
characters without a meaning of their own vanish, and some have no place in a host name at all.
-/

namespace UnitLint.Idna

/-- What a character becomes, or none when no host name may hold it. -/
def mapChar (c : Char) : Option (List Char) :=
  match replacements.findSome? (·.imageOf? c.toNat) with
  | some target => some (target.map Char.ofNat)
  | none =>
    if Unicode.CodeRange.anyHolds droppedRanges c.toNat then some []
    else if Unicode.CodeRange.anyHolds refusedRanges c.toNat then none
    else some [c]

/-- What a text becomes when each of its characters is mapped. -/
def mapChars (cs : List Char) : Option (List Char) :=
  (cs.mapM mapChar).map List.flatten

end UnitLint.Idna
