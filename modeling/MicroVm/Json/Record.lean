import MicroVm.Json.Value

/-!
# Reading records

A record has named fields in a fixed order. It is read from an object, whose members may stand in
any order and may include others that are ignored, or from an array that holds the fields in
order. A known field that occurs twice makes the object no record, and an array longer than the
record is none either. A field that is absent has a default, or may be `null`, or is missed; an
array can leave out only the fields with a default at its end.
-/

namespace MicroVm.Json

structure Fields where
  /-- Each declared field with the value given for it. -/
  slots : List (String × Option Value)
  /-- Whether the fields came in order from an array. -/
  positional : Bool

def membersNamed (name : String) (members : List (Option String × Value)) : List Value :=
  members.filterMap fun (key, value) ↦ if key = some name then some value else none

/-- The one value of a member, or nothing, and failure when the member is repeated. -/
def theMember? (name : String) (members : List (Option String × Value)) :
    Option (String × Option Value) :=
  match membersNamed name members with
  | [] => some (name, none)
  | [value] => some (name, some value)
  | _ => none

/-- The given names with the values of an array, one after the other. -/
def zipFields? : List String → List Value → Option (List (String × Option Value))
  | [], [] => some []
  | [], _ :: _ => none
  | name :: names, [] => (zipFields? names []).map ((name, none) :: ·)
  | name :: names, value :: values => (zipFields? names values).map ((name, some value) :: ·)

/-- The fields that a value gives for the declared names. -/
def Value.fields? (names : List String) : Value → Option Fields
  | .object members =>
    if members.all fun (key, _) ↦ key.isSome then
      (names.mapM fun name ↦ theMember? name members).map (⟨·, false⟩)
    else none
  | .array items => (zipFields? names items).map (⟨·, true⟩)
  | _ => none

namespace Fields

def get? (fields : Fields) (name : String) : Option Value :=
  (fields.slots.lookup name).join

def required {α : Type} (fields : Fields) (name : String) (read : Value → Option α) : Option α :=
  fields.get? name >>= read

def withDefault {α : Type} (fields : Fields) (name : String) (read : Value → Option α)
    (default : α) : Option α :=
  match fields.get? name with
  | none => some default
  | some value => read value

/-- A field that an object may leave out and whose value may be `null`. -/
def nullable {α : Type} (fields : Fields) (name : String) (read : Value → Option α) :
    Option (Option α) :=
  match fields.get? name with
  | none => if fields.positional then none else some none
  | some .null => some none
  | some value => (read value).map some

/-- A field that may be left out in either form and whose value may be `null`. -/
def optional {α : Type} (fields : Fields) (name : String) (read : Value → Option α) :
    Option (Option α) :=
  match fields.get? name with
  | none => some none
  | some .null => some none
  | some value => (read value).map some

end Fields

namespace Value

def text? : Value → Option String
  | .string text => text
  | _ => none

def bool? : Value → Option Bool
  | .bool b => some b
  | _ => none

def natural? (limit : Nat) : Value → Option Nat
  | .number n => n.natural?.filter (· ≤ limit)
  | _ => none

/-- An array whose items are all read. -/
def items? {α : Type} (read : Value → Option α) : Value → Option (List α)
  | .array items => items.mapM read
  | _ => none

/-- The name of a case without content: the name alone, or the only member of an object, whose
value is `null`. -/
def case? : Value → Option String
  | .string name => name
  | .object [(name, .null)] => name
  | _ => none

end Value

end MicroVm.Json
