/-!
# Blank characters

White space in the sense of the Unicode standard: twenty-five characters, of which six are ASCII.
-/

namespace DemoBuild.Text

/-- `c` is white space. -/
def isBlank (c : Char) : Bool :=
  c == ' ' || (0x09 ≤ c.toNat && c.toNat ≤ 0x0d) || c.toNat == 0x85 || c.toNat == 0xa0
    || c.toNat == 0x1680 || (0x2000 ≤ c.toNat && c.toNat ≤ 0x200a)
    || c.toNat == 0x2028 || c.toNat == 0x2029 || c.toNat == 0x202f || c.toNat == 0x205f
    || c.toNat == 0x3000

/-- `text` is empty or consists of white space. -/
def isBlankText (text : String) : Bool :=
  text.toList.all isBlank

end DemoBuild.Text
