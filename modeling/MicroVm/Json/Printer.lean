import MicroVm.Json.Value
import MicroVm.Text.Numeral

/-!
# Writing JSON text

A value has a compact text without any space and an indented text with one item or member per
line, two spaces per level. Only the quotation mark, the backslash and the control characters
below the space are escaped.
-/

namespace MicroVm.Json

def printChar (c : Char) : List Char :=
  match c with
  | '"' => ['\\', '"']
  | '\\' => ['\\', '\\']
  | '\x08' => ['\\', 'b']
  | '\x0c' => ['\\', 'f']
  | '\n' => ['\\', 'n']
  | '\r' => ['\\', 'r']
  | '\t' => ['\\', 't']
  | _ => if c.toNat < 0x20 then ['\\', 'u', '0', '0'] ++ Text.hexByte c.toNat.toUInt8 else [c]

/-- A string between quotation marks. A string without characters is written as half of a
surrogate pair. -/
def printString : Option String → List Char
  | some text => ['"'] ++ text.toList.flatMap printChar ++ ['"']
  | none => ['"', '\\', 'u', 'd', '8', '0', '0', '"']

def printInt : Int → List Char
  | .ofNat n => Text.decimal n
  | .negSucc n => '-' :: Text.decimal (n + 1)

def printNumber (n : Number) : List Char :=
  (if n.negative then ['-'] else []) ++ Text.decimal n.significand ++
    match n.exponent with
    | none => []
    | some exponent => 'e' :: printInt exponent

mutual

def printValue : Value → List Char
  | .null => ['n', 'u', 'l', 'l']
  | .bool true => ['t', 'r', 'u', 'e']
  | .bool false => ['f', 'a', 'l', 's', 'e']
  | .number n => printNumber n
  | .string text => printString text
  | .array items => ['['] ++ printItems items ++ [']']
  | .object members => ['\x7b'] ++ printMembers members ++ ['\x7d']

def printItems : List Value → List Char
  | [] => []
  | [item] => printValue item
  | item :: items => printValue item ++ [','] ++ printItems items

def printMembers : List (Option String × Value) → List Char
  | [] => []
  | [(name, value)] => printString name ++ [':'] ++ printValue value
  | (name, value) :: members =>
    printString name ++ [':'] ++ printValue value ++ [','] ++ printMembers members

end

def newLine (level : Nat) : List Char := '\n' :: List.replicate (2 * level) ' '

mutual

/-- The indented text of a value whose first line stands at the given level. -/
def indentValue (level : Nat) : Value → List Char
  | .array [] => ['[', ']']
  | .array items => ['['] ++ indentItems (level + 1) items ++ newLine level ++ [']']
  | .object [] => ['\x7b', '\x7d']
  | .object members =>
    ['\x7b'] ++ indentMembers (level + 1) members ++ newLine level ++ ['\x7d']
  | .null => printValue .null
  | .bool b => printValue (.bool b)
  | .number n => printNumber n
  | .string text => printString text

def indentItems (level : Nat) : List Value → List Char
  | [] => []
  | [item] => newLine level ++ indentValue level item
  | item :: items => newLine level ++ indentValue level item ++ [','] ++ indentItems level items

def indentMembers (level : Nat) : List (Option String × Value) → List Char
  | [] => []
  | [(name, value)] =>
    newLine level ++ printString name ++ [':', ' '] ++ indentValue level value
  | (name, value) :: members =>
    newLine level ++ printString name ++ [':', ' '] ++ indentValue level value ++ [','] ++
      indentMembers level members

end

def Value.compact (value : Value) : String := String.ofList (printValue value)

def Value.pretty (value : Value) : String := String.ofList (indentValue 0 value)

end MicroVm.Json
