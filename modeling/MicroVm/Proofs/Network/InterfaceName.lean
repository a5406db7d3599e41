import Mathlib.Data.List.Basic
import MicroVm.Network.InterfaceName

/-!
# Names made from interface names

The name of a device made for an interface is the name of the interface with three characters in
front, cut to what a device name can hold. For ASCII names the cut never falls into a character, and
of the interface's name the first twelve characters are left. So two interfaces whose names begin
alike share the names of their devices, and no tap is ever named like a bridge.
-/

namespace MicroVm.Network

/-- Whether a text is of ASCII characters. -/
def IsAscii (text : String) : Prop := ∀ c ∈ text.toList, c.val ≤ 127

instance (text : String) : Decidable (IsAscii text) :=
  List.decidableBAll (fun c : Char ↦ c.val ≤ 127) text.toList

/-- How much of an interface's name the names of its devices can hold. -/
def maxNamePart : ℕ := maxDeviceName - "vm_".toList.length

/-- What the names of an interface's devices hold of its own name. -/
def namePart (interface : String) : List Char := interface.toList.take maxNamePart

section Cuts

variable {size : ℕ} {name kept : List Char}

theorem takeBytes?_of_ascii (hname : ∀ c ∈ name, c.val ≤ 127) :
    takeBytes? size name = some (name.take size) := by
  induction name generalizing size with
  | nil => cases size <;> rfl
  | cons c name ih =>
    obtain ⟨hc, hname⟩ := List.forall_mem_cons.1 hname
    cases size with
    | zero => rfl
    | succ size =>
      have hsize : c.utf8Size = 1 := Char.utf8Size_eq_one_iff.2 hc
      rw [takeBytes?, if_pos (by omega), hsize, Nat.add_sub_cancel, ih hname]
      · rfl
      · omega

/-- ASCII characters in front take one byte each. -/
theorem takeBytes?_append {front : List Char} (hfront : ∀ c ∈ front, c.val ≤ 127) :
    takeBytes? (front.length + size) (front ++ name) = (takeBytes? size name).map (front ++ ·) := by
  induction front with
  | nil => rw [List.length_nil, Nat.zero_add, List.nil_append]; exact Option.map_id'.symm
  | cons c front ih =>
    obtain ⟨hc, hfront⟩ := List.forall_mem_cons.1 hfront
    have hsize : c.utf8Size = 1 := Char.utf8Size_eq_one_iff.2 hc
    rw [List.length_cons, Nat.succ_add, List.cons_append, takeBytes?, if_pos (by omega), hsize,
      Nat.succ_sub_one, ih hfront, Option.map_map]
    · rfl
    · omega

theorem utf8ByteSize_ofList_cons (c : Char) (rest : List Char) :
    (String.ofList (c :: rest)).utf8ByteSize =
      c.utf8Size + (String.ofList rest).utf8ByteSize := by
  rw [String.ofList_cons, String.utf8ByteSize_append, String.utf8ByteSize_singleton]

/-- What is taken fills no more than the given bytes. -/
theorem utf8ByteSize_of_takeBytes? (h : takeBytes? size name = some kept) :
    (String.ofList kept).utf8ByteSize ≤ size := by
  induction name generalizing size kept with
  | nil =>
    rw [takeBytes?] at h
    obtain rfl := Option.some.inj h
    exact Nat.zero_le size
  | cons c name ih =>
    cases size with
    | zero =>
      obtain rfl := Option.some.inj h
      exact Nat.le_refl 0
    | succ size =>
      rw [takeBytes?] at h
      · split at h
        next hfits =>
          obtain ⟨rest, hrest, rfl⟩ := Option.map_eq_some_iff.1 h
          have hsize : (String.ofList rest).utf8ByteSize ≤ size + 1 - c.utf8Size := ih hrest
          rw [utf8ByteSize_ofList_cons]
          omega
        next => cases h
      · omega

end Cuts

/-! ## Names of devices -/

section Devices

variable {interface other device tap bridge front : String}

/-- A device name has at most 15 bytes. -/
theorem utf8ByteSize_of_deviceName? {name : List Char} (h : deviceName? name = some device) :
    device.utf8ByteSize ≤ maxDeviceName := by
  obtain ⟨kept, hkept, rfl⟩ := Option.map_eq_some_iff.1 h
  exact utf8ByteSize_of_takeBytes? hkept

/-- Whether the devices of an interface can be named, because their names do not end inside a
character. -/
def IsNamed (interface : String) : Prop := (takeBytes? maxNamePart interface.toList).isSome

instance (interface : String) : Decidable (IsNamed interface) :=
  inferInstanceAs (Decidable ((takeBytes? maxNamePart interface.toList).isSome = true))

/-- Three ASCII characters in front of an interface's name leave the part of it that is named. -/
theorem deviceName?_append (hfront : IsAscii front)
    (hlength : front.toList.length = "vm_".toList.length) :
    deviceName? (front.toList ++ interface.toList) =
      (takeBytes? maxNamePart interface.toList).map fun kept ↦
        String.ofList (front.toList ++ kept) := by
  have hsize : maxDeviceName = front.toList.length + maxNamePart := by
    rw [hlength]
    rfl
  rw [deviceName?, hsize, takeBytes?_append hfront, Option.map_map]
  rfl

theorem tapName?_eq_map : tapName? interface =
    (takeBytes? maxNamePart interface.toList).map fun kept ↦
      String.ofList ("vm_".toList ++ kept) :=
  deviceName?_append (by decide) rfl

theorem bridgeName?_eq_map : bridgeName? interface =
    (takeBytes? maxNamePart interface.toList).map fun kept ↦
      String.ofList ("br_".toList ++ kept) :=
  deviceName?_append (by decide) rfl

theorem IsAscii.takeBytes?_eq (hinterface : IsAscii interface) :
    takeBytes? maxNamePart interface.toList = some (namePart interface) :=
  takeBytes?_of_ascii hinterface

theorem IsAscii.isNamed (hinterface : IsAscii interface) : IsNamed interface := by
  rw [IsNamed, hinterface.takeBytes?_eq]
  rfl

/-- A tap is told by its name. -/
theorem isOwnDevice_of_tapName? (htap : tapName? interface = some tap) : isOwnDevice tap := by
  rw [tapName?_eq_map] at htap
  obtain ⟨kept, -, rfl⟩ := Option.map_eq_some_iff.1 htap
  have hname : (String.ofList ("vm_".toList ++ kept)).toList = "vm_".toList ++ kept :=
    String.toList_ofList
  rw [isOwnDevice, hname, Bool.or_eq_true, List.isPrefixOf_iff_prefix]
  exact .inl (List.prefix_append _ kept)

/-- A bridge is told by its name. -/
theorem isOwnDevice_of_bridgeName? (hbridge : bridgeName? interface = some bridge) :
    isOwnDevice bridge := by
  rw [bridgeName?_eq_map] at hbridge
  obtain ⟨kept, -, rfl⟩ := Option.map_eq_some_iff.1 hbridge
  have hname : (String.ofList ("br_".toList ++ kept)).toList = "br_".toList ++ kept :=
    String.toList_ofList
  rw [isOwnDevice, hname, Bool.or_eq_true, List.isPrefixOf_iff_prefix, List.isPrefixOf_iff_prefix]
  exact .inr (List.prefix_append _ kept)

/-- The tap of an interface with an ASCII name. -/
theorem tapName?_of_isAscii (hinterface : IsAscii interface) :
    tapName? interface = some (String.ofList ("vm_".toList ++ namePart interface)) := by
  rw [tapName?_eq_map, hinterface.takeBytes?_eq]
  rfl

/-- The bridge of an interface with an ASCII name. -/
theorem bridgeName?_of_isAscii (hinterface : IsAscii interface) :
    bridgeName? interface = some (String.ofList ("br_".toList ++ namePart interface)) := by
  rw [bridgeName?_eq_map, hinterface.takeBytes?_eq]
  rfl

/-- Taps share a name exactly if the interfaces begin alike. -/
theorem tapName?_eq_iff (hinterface : IsAscii interface) (hother : IsAscii other) :
    tapName? interface = tapName? other ↔ namePart interface = namePart other := by
  rw [tapName?_of_isAscii hinterface, tapName?_of_isAscii hother, Option.some.injEq,
    String.ofList_inj, List.append_right_inj]

/-- Bridges share a name exactly if the interfaces begin alike. -/
theorem bridgeName?_eq_iff (hinterface : IsAscii interface) (hother : IsAscii other) :
    bridgeName? interface = bridgeName? other ↔ namePart interface = namePart other := by
  rw [bridgeName?_of_isAscii hinterface, bridgeName?_of_isAscii hother, Option.some.injEq,
    String.ofList_inj, List.append_right_inj]

/-- No bridge is named like a tap. -/
theorem bridge_ne_tap (hinterface : IsAscii interface) (hother : IsAscii other)
    (hbridge : bridgeName? interface = some bridge) (htap : tapName? other = some tap) :
    bridge ≠ tap := by
  rw [bridgeName?_of_isAscii hinterface] at hbridge
  rw [tapName?_of_isAscii hother] at htap
  intro hequal
  have hnames : String.ofList ("br_".toList ++ namePart interface) =
      String.ofList ("vm_".toList ++ namePart other) :=
    calc String.ofList ("br_".toList ++ namePart interface)
      _ = bridge := Option.some.inj hbridge
      _ = tap := hequal
      _ = String.ofList ("vm_".toList ++ namePart other) := (Option.some.inj htap).symm
  have hfirst := congrArg List.head? (String.ofList_inj.1 hnames)
  exact absurd hfirst (by simp)

/-- A name that fits is named whole. -/
theorem namePart_eq_iff (hinterface : interface.toList.length ≤ maxNamePart)
    (hother : other.toList.length ≤ maxNamePart) :
    namePart interface = namePart other ↔ interface = other := by
  rw [namePart, namePart, List.take_of_length_le hinterface, List.take_of_length_le hother,
    String.toList_inj]

end Devices

end MicroVm.Network
