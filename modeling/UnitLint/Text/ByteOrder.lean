/-!
# Order by bytes

Texts in the order of their UTF-8 bytes. Two texts with the same bytes are the same text, so the
order is total and decides equality.
-/

namespace UnitLint.Text

/-- The UTF-8 bytes of a text. -/
def bytes (text : String) : List UInt8 := text.toByteArray.data.toList

theorem bytes_injective {a b : String} (h : bytes a = bytes b) : a = b :=
  String.toByteArray_inj.1 (ByteArray.ext (Array.toList_inj.1 h))

/-- Compares texts by their bytes. -/
def compareBytes (a b : String) : Ordering := compareOn bytes a b

instance : Std.TransCmp compareBytes := inferInstanceAs (Std.TransCmp (compareOn bytes))

instance : Std.LawfulEqCmp compareBytes where
  eq_of_compare h := bytes_injective (Std.LawfulEqCmp.eq_of_compare h)

end UnitLint.Text
