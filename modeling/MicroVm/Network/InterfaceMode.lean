import MicroVm.Json.Record
import MicroVm.Text.Split

/-!
# Interface modes

A container interface is handed to the guest in one of two ways: the guest takes over its address
through a bridge, or its traffic is redirected. The annotations of a machine choose the way per
interface. Annotations map texts to texts, and the map is kept in the order of its keys.
-/

namespace MicroVm.Network

/-- How a container interface is handed to the guest. -/
inductive InterfaceMode
  /-- The guest leases the address of the interface through a bridge. -/
  | bridge
  /-- Traffic is redirected both ways, and the guest sees the container's own network. -/
  | redirect
  deriving DecidableEq, Repr

namespace InterfaceMode

def text : InterfaceMode → String
  | .bridge => "dhcp-bridge"
  | .redirect => "tc-redirect"

/-- The mode of an interface without annotation. -/
instance : Inhabited InterfaceMode := ⟨.bridge⟩

def parse? (text : String) : Option InterfaceMode :=
  if text = "dhcp-bridge" then some .bridge
  else if text = "tc-redirect" then some .redirect
  else none

def unknownFault (text : String) : String := s!"unknown interface mode: {text}"

def ofJson? (value : Json.Value) : Option InterfaceMode := value.case? >>= parse?

end InterfaceMode

abbrev InterfaceModes := List (String × InterfaceMode)

def InterfaceModes.modeOf (modes : InterfaceModes) (interface : String) : InterfaceMode :=
  (modes.lookup interface).getD default

end MicroVm.Network

namespace MicroVm

/-- A map from texts to texts, in the order of its keys. -/
@[ext]
structure Annotations where
  entries : List (String × String)
  ordered : entries.Pairwise fun a b ↦ a.1 < b.1
  deriving DecidableEq

namespace Annotations

def empty : Annotations := ⟨[], List.Pairwise.nil⟩

instance : Inhabited Annotations := ⟨empty⟩

/-- The entries with one added. It replaces the entry of the same key. -/
def insertEntry (key value : String) : List (String × String) → List (String × String)
  | [] => [(key, value)]
  | (other, held) :: rest =>
    if key < other then (key, value) :: (other, held) :: rest
    else if key = other then (key, value) :: rest
    else (other, held) :: insertEntry key value rest

theorem mem_insertEntry {key value : String} {entries : List (String × String)}
    {entry : String × String} (h : entry ∈ insertEntry key value entries) :
    entry = (key, value) ∨ entry ∈ entries := by
  induction entries with
  | nil => simpa [insertEntry] using h
  | cons first rest ih =>
    obtain ⟨other, held⟩ := first
    simp only [insertEntry] at h
    split at h
    · simpa using h
    · split at h
      · rcases List.mem_cons.1 h with h | h <;> simp [h]
      · rcases List.mem_cons.1 h with h | h
        · simp [h]
        · rcases ih h with h | h <;> simp [h]

theorem ordered_insertEntry (key value : String) {entries : List (String × String)}
    (h : entries.Pairwise fun a b ↦ a.1 < b.1) :
    (insertEntry key value entries).Pairwise fun a b ↦ a.1 < b.1 := by
  induction entries with
  | nil => simp [insertEntry]
  | cons first rest ih =>
    obtain ⟨other, held⟩ := first
    have ⟨hfirst, hrest⟩ := List.pairwise_cons.1 h
    simp only [insertEntry]
    split
    next hlt =>
      refine List.pairwise_cons.2 ⟨fun entry hmem ↦ ?_, h⟩
      rcases List.mem_cons.1 hmem with rfl | hmem
      · exact hlt
      · exact String.lt_trans hlt (hfirst entry hmem)
    next hlt =>
      split
      next heq =>
        subst heq
        exact List.pairwise_cons.2 ⟨hfirst, hrest⟩
      next hne =>
        refine List.pairwise_cons.2 ⟨fun entry hmem ↦ ?_, ih hrest⟩
        rcases mem_insertEntry hmem with rfl | hmem
        · exact Std.lt_of_le_of_ne (String.not_lt.1 hlt) (Ne.symm hne)
        · exact hfirst entry hmem

def insert (annotations : Annotations) (key value : String) : Annotations :=
  ⟨insertEntry key value annotations.entries, ordered_insertEntry key value annotations.ordered⟩

/-- The map of a list of entries, of which a later one replaces an earlier one. -/
def ofList (entries : List (String × String)) : Annotations :=
  entries.foldl (fun annotations entry ↦ annotations.insert entry.1 entry.2) empty

/-- The key under which the mode of an interface is annotated begins like this. -/
def modeKey : String := "fcspawn.io/interface/"

/-- The modes that the annotations choose. A mode of another name is left out. -/
def interfaceModes (annotations : Annotations) : Network.InterfaceModes :=
  annotations.entries.filterMap fun (key, value) ↦ do
    let interface ← Text.dropBeginning? modeKey.toList key.toList
    let mode ← Network.InterfaceMode.parse? value
    return (String.ofList interface, mode)

end Annotations

end MicroVm
