import UnitLint.Text.Utf8

/-!
# From bytes to text

Bytes that are UTF-8 are the text they encode, unchanged. Other bytes are no text at all.
-/

namespace UnitLint.Text

/-- The text that bytes encode, or the first place at which they are not UTF-8. -/
def decode (bytes : ByteArray) : Except Utf8.Defect String :=
  match String.fromUTF8? bytes with
  | some text => .ok text
  | none => .error ((Utf8.defect? bytes.data.toList).getD ⟨0, none⟩)

end UnitLint.Text
