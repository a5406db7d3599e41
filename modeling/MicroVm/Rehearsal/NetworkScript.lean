import MicroVm.Network.Links

/-!
# A network that answers from a script

Each reading of the interfaces has its answer, and the last answer stays. The same holds for the
gateway of each device. Changes are written down and nothing else comes of them.
-/

namespace MicroVm.Rehearsal

open MicroVm.Network

/-- The answers still to come, of which the last one stays. -/
structure Answers (α : Type) where
  current : α
  later : List α

namespace Answers

/-- Answers in their order, or the same one over and over when there are none. -/
def ofList {α : Type} (default : α) : List α → Answers α
  | [] => ⟨default, []⟩
  | answer :: later => ⟨answer, later⟩

def next {α : Type} (answers : Answers α) : Answers α :=
  match answers.later with
  | [] => answers
  | answer :: later => ⟨answer, later⟩

end Answers

structure NetworkScript where
  interfaces : Answers (Except String (List Link)) := ⟨.ok [], []⟩
  gateways : List (String × Answers (Except String (Option Ipv4))) := []
  readings : Nat := 0
  changes : List Change := []
  warnings : List (String × String) := []

def reported {α : Type} : Except String α → Except Failure α
  | .ok value => .ok value
  | .error text => .error (.cause (.reported text))

namespace NetworkScript

def read (script : NetworkScript) : Except Failure (List Link) × NetworkScript :=
  (reported script.interfaces.current,
    { script with interfaces := script.interfaces.next, readings := script.readings + 1 })

/-- Reads the gateway of a device. A device without an answer has none. -/
def gateway (script : NetworkScript) (device : String) :
    Except Failure (Option Ipv4) × NetworkScript :=
  match script.gateways.lookup device with
  | none => (.ok none, script)
  | some answers =>
    (reported answers.current,
      { script with gateways := (device, answers.next) :: script.gateways })

end NetworkScript

def changeName : Change → String
  | .removeAddress _ _ => "remove_address"
  | .setMac _ _ => "set_mac"
  | .createTap _ => "create_tap"
  | .createBridge _ => "create_bridge"
  | .setMaster _ _ => "set_master"
  | .setUp _ => "set_up"
  | .redirect _ _ => "redirect_ingress"

/-- The line of a change. Of a hardware address only the first byte is shown, because the others
are random. -/
def changeText : Change → String
  | .removeAddress device address => s!"addr del {device} {address.text}"
  | .setMac device mac => s!"mac {device} {String.ofList (Text.hexByte mac.first)}:*"
  | .createTap name => s!"tap {name}"
  | .createBridge name => s!"bridge {name}"
  | .setMaster device master => s!"master {device} {master}"
  | .setUp device => s!"up {device}"
  | .redirect source target => s!"redirect {source} {target}"

end MicroVm.Rehearsal
