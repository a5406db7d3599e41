import MicroVm.Text.Numeral
import MicroVm.Text.Shown

/-!
# Quoted text

A text inside an error message stands between quotation marks. The mark itself and the backslash
are escaped by a backslash, four control characters have a letter of their own, and every other
character that is not shown as itself is written as its code point.
-/

namespace MicroVm.Text

def quotedChar (c : Char) : List Char :=
  match c with
  | '\x00' => ['\\', '0']
  | '\t' => ['\\', 't']
  | '\r' => ['\\', 'r']
  | '\n' => ['\\', 'n']
  | '\\' => ['\\', '\\']
  | '"' => ['\\', '"']
  | _ => if isShown c then [c] else ['\\', 'u', '\x7b'] ++ hexadecimal c.toNat ++ ['\x7d']

def quoted (text : String) : String :=
  String.ofList (['"'] ++ text.toList.flatMap quotedChar ++ ['"'])

end MicroVm.Text
