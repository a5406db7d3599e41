/-!
# Blank characters

A character is blank when Unicode gives it the property `White_Space`. Trimming a text removes the
blank characters at its two ends and keeps those between other characters.
-/

namespace MicroVm.Text

/-- The 25 characters with the Unicode property `White_Space`. -/
def isBlank (c : Char) : Bool :=
  let code := c.toNat
  (0x09 ≤ code && code ≤ 0x0d) || code == 0x20 || code == 0x85 || code == 0xa0 ||
    code == 0x1680 || (0x2000 ≤ code && code ≤ 0x200a) || code == 0x2028 || code == 0x2029 ||
    code == 0x202f || code == 0x205f || code == 0x3000

def trimStart (text : List Char) : List Char := text.dropWhile isBlank

def trim (text : List Char) : List Char := (trimStart (trimStart text).reverse).reverse

def trimmed (text : String) : String := String.ofList (trim text.toList)

end MicroVm.Text
