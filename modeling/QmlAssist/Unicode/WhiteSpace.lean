import QmlAssist.Unicode.RangeTable

/-!
# White space

The `White_Space` property.
-/

namespace QmlAssist.Unicode

/-- The scalar values with the property `White_Space`. -/
def whiteSpaceTable : RangeTable := [
    (0x0009, 0x000D), (0x0020, 0x0020), (0x0085, 0x0085), (0x00A0, 0x00A0), (0x1680, 0x1680),
    (0x2000, 0x200A), (0x2028, 0x2029), (0x202F, 0x202F), (0x205F, 0x205F), (0x3000, 0x3000)]

/-- Whether a character is white space. -/
def isWhiteSpace (c : Char) : Bool :=
  whiteSpaceTable.contains c.toNat

end QmlAssist.Unicode
