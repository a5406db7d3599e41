/-!
# Taking texts apart

Texts are lists of characters here. A separator splits a text into one part more than it occurs,
so the empty text has one empty part. A line ends with a line feed, and a carriage return right
before that line feed belongs to the ending.
-/

namespace MicroVm.Text

def splitOn (separator : Char) : List Char → List (List Char)
  | [] => [[]]
  | c :: rest =>
    if c = separator then [] :: splitOn separator rest
    else match splitOn separator rest with
      | [] => [[c]]
      | part :: parts => (c :: part) :: parts

def splitOnce (separator : Char) : List Char → Option (List Char × List Char)
  | [] => none
  | c :: rest =>
    if c = separator then some ([], rest)
    else (splitOnce separator rest).map fun (before, after) ↦ (c :: before, after)

/-- The rest of a text after the given beginning, when it begins that way. -/
def dropBeginning? : (beginning text : List Char) → Option (List Char)
  | [], text => some text
  | _ :: _, [] => none
  | b :: beginning, c :: text => if b = c then dropBeginning? beginning text else none

/-- The rest of a text after the first place where `needle` occurs. -/
def afterFirst? (needle : List Char) : List Char → Option (List Char)
  | [] => dropBeginning? needle []
  | c :: text =>
    match dropBeginning? needle (c :: text) with
    | some rest => some rest
    | none => afterFirst? needle text

def occursIn (needle text : List Char) : Bool := (afterFirst? needle text).isSome

/-- A line with its carriage return, if it ends with one, removed. -/
def dropReturn (line : List Char) : List Char :=
  if line.getLast? = some '\r' then line.dropLast else line

/-- The lines of a text. Text after the last line feed is a line when there is any. -/
def lines (text : List Char) : List (List Char) :=
  let parts := splitOn '\n' text
  let ended := parts.dropLast.map dropReturn
  match parts.getLast? with
  | none => ended
  | some [] => ended
  | some last => ended ++ [last]

/-- The lines of a text that a line feed has ended, which is what can be read from a pipe that
stays open. -/
def endedLines (text : List Char) : List (List Char) := (splitOn '\n' text).dropLast.map dropReturn

/-- The ASCII capital letters as small letters, and all other characters unchanged. -/
def lowered (text : List Char) : List Char := text.map Char.toLower

theorem splitOn_ne_nil (separator : Char) (text : List Char) : splitOn separator text ≠ [] := by
  cases text with
  | nil => simp [splitOn]
  | cons c rest =>
    rw [splitOn]
    split
    · simp
    · split <;> simp

end MicroVm.Text
