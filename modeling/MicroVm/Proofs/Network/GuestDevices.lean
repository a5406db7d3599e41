import Mathlib.Data.List.Nodup
import Mathlib.Data.Option.Basic
import MicroVm.Proofs.Network.InterfaceName
import MicroVm.Proofs.Network.Takeover
import MicroVm.Proofs.Program.Conduct

/-!
# The devices that a takeover creates

A takeover creates a tap for every guest card and a bridge for every lease, each under a name made
from an interface name. A takeover of ASCII names in which no change fails goes through, and no
bridge is named like a tap. The names of the taps differ from one another exactly when the first
twelve characters of the interface names do, which is less than the kernel allows in a name: two
interfaces whose names begin alike get one tap and one bridge between them.
-/

namespace MicroVm.Network

variable {dns : GuestDns} {candidate : Candidate} {candidates : List Candidate}
  {setup given network : NetworkSetup} {past history : History Links}
  {result : Option (Except Failure NetworkSetup)}

/-! ## Takeovers in which nothing fails -/

/-- Whether no change has failed. -/
def NothingFails (history : History Links) : Prop :=
  ∀ change failure, ⟨.change change, .error failure⟩ ∉ history

/-- A network in which every change succeeds. -/
def smooth : Conduct Links Unit
  | _, _, .change _, answer, _ => answer = .ok ()
  | _, _, _, _, _ => True

theorem NothingFails.allows (hfine : NothingFails history) :
    smooth.Allows past () history () := by
  induction history generalizing past with
  | nil => exact .nil past ()
  | cons event history ih =>
    obtain ⟨request, answer⟩ := event
    have hlater : NothingFails history := fun change failure hfailed ↦
      hfine change failure (List.mem_cons_of_mem _ hfailed)
    have hfirst : smooth past () request answer () := by
      cases request with
      | change change =>
        cases answer with
        | ok => rfl
        | error failure => exact absurd List.mem_cons_self (hfine change failure)
      | _ => trivial
    exact .cons hfirst (ih hlater)

theorem change_ensures (change : Change) :
    (Links.change change).attempt.Ensures smooth past () fun result _ _ ↦ result = .ok () :=
  Program.ensures_perform fun _ _ hstep ↦ hstep

theorem changeAll_ensures (changes : List Change) :
    (changeAll changes).attempt.Ensures smooth past () fun result _ _ ↦ result = .ok () := by
  induction changes generalizing past with
  | nil => exact Program.ensures_done rfl
  | cons change changes ih =>
    refine Task.ensures_bind ((change_ensures change).mono ?_)
    rintro result past ⟨⟩ rfl
    exact ih

/-- A task that begins with changes goes on after them. -/
theorem ensures_changes_bind {α : Type} {changes : Task Links Unit} {next : Unit → Task Links α}
    {post : Except Failure α → History Links → Unit → Prop}
    (hchanges : changes.attempt.Ensures smooth past () fun result _ _ ↦ result = .ok ())
    (hnext : ∀ past, (next ()).attempt.Ensures smooth past () post) :
    (changes >>= next).attempt.Ensures smooth past () post := by
  refine Task.ensures_bind (hchanges.mono ?_)
  rintro result past ⟨⟩ rfl
  exact hnext past

theorem leaseInterface_ensures {interface : String} (hinterface : IsAscii interface) (mac : Mac)
    (address : Cidr) (gateway : Option Ipv4) :
    (leaseInterface interface mac address gateway dns).attempt.Ensures smooth past ()
      fun result _ _ ↦ ∃ lease, result = .ok lease := by
  rw [leaseInterface, tapName?_of_isAscii hinterface, bridgeName?_of_isAscii hinterface]
  refine ensures_changes_bind (change_ensures _) fun past ↦ ?_
  refine Task.ensures_liftM_bind (Program.ensures_perform fun bytes _ _ ↦ ?_)
  refine ensures_changes_bind (change_ensures _) fun past ↦ ?_
  refine ensures_changes_bind (changeAll_ensures _) fun past ↦ ?_
  exact Program.ensures_done ⟨_, rfl⟩

theorem redirectInterface_ensures {interface : String} (hinterface : IsAscii interface)
    (mac : Mac) :
    (redirectInterface interface mac).attempt.Ensures smooth past ()
      fun result _ _ ↦ ∃ nic, result = .ok nic := by
  rw [redirectInterface, tapName?_of_isAscii hinterface]
  refine ensures_changes_bind (changeAll_ensures _) fun past ↦ ?_
  exact Program.ensures_done ⟨_, rfl⟩

theorem takeOverOne_ensures (hcandidate : IsAscii candidate.interface) :
    (takeOverOne dns setup candidate).attempt.Ensures smooth past ()
      fun result _ _ ↦ ∃ network, result = .ok network := by
  cases candidate with
  | leased interface mac address gateway =>
    refine Task.ensures_bind (Task.ensures_within
      ((leaseInterface_ensures hcandidate mac address gateway).mono ?_))
    rintro result past ⟨⟩ ⟨lease, rfl⟩
    exact Program.ensures_done ⟨_, rfl⟩
  | redirected interface mac =>
    refine Task.ensures_bind (Task.ensures_within
      ((redirectInterface_ensures hcandidate mac).mono ?_))
    rintro result past ⟨⟩ ⟨nic, rfl⟩
    exact Program.ensures_done ⟨_, rfl⟩

/-- When no call fails, interfaces with names of ASCII characters are all taken over. -/
theorem takeOverFrom_ensures (hascii : ∀ candidate ∈ candidates, IsAscii candidate.interface) :
    (takeOverFrom dns setup candidates).attempt.Ensures smooth past ()
      fun result _ _ ↦ ∃ network, result = .ok network := by
  induction candidates generalizing setup past with
  | nil => exact Program.ensures_done ⟨setup, rfl⟩
  | cons candidate candidates ih =>
    obtain ⟨hcandidate, hcandidates⟩ := List.forall_mem_cons.1 hascii
    refine Task.ensures_bind ((takeOverOne_ensures hcandidate).mono ?_)
    rintro result past ⟨⟩ ⟨setup, rfl⟩
    exact ih hcandidates

/-- A takeover of ASCII names in which nothing fails goes through. -/
theorem allGive_of_nothingFails
    (hascii : ∀ candidate ∈ candidates, IsAscii candidate.interface)
    (hrun : (takeOver dns candidates).attempt.IsRun history result)
    (hfine : NothingFails history) :
    ∃ network, result = some (.ok network) ∧ AllGive dns candidates history network := by
  have hallows : smooth.Allows [] () history () := hfine.allows
  obtain ⟨_, rfl, network, rfl⟩ := takeOverFrom_ensures hascii hrun hallows
  exact ⟨network, rfl, isRun_takeOver_ok_iff.1 hrun⟩

theorem nothingFails_append {before after : History Links} (hbefore : NothingFails before)
    (hafter : NothingFails after) : NothingFails (before ++ after) := by
  intro change failure hfailed
  obtain hfirst | hlater := List.mem_append.1 hfailed
  · exact hbefore change failure hfirst
  · exact hafter change failure hlater

theorem nothingFails_made (changes : List Change) : NothingFails (changes.map made) := by
  intro change failure hfailed
  obtain ⟨_, -, hmade⟩ := List.mem_map.1 hfailed
  cases hmade

/-- One candidate can be handed over without a failure. -/
theorem Candidate.exists_gives (dns : GuestDns) (hcandidate : IsAscii candidate.interface) :
    ∃ history given, candidate.Gives dns history given ∧ NothingFails history := by
  cases candidate with
  | leased interface mac address gateway =>
    let bytes : Octets 6 := ⟨List.replicate 6 0, rfl⟩
    have hbytes : NothingFails [⟨.randomBytes, bytes⟩] := by
      intro change failure hfailed
      cases List.mem_singleton.1 hfailed
    exact ⟨_, _, .leased (tapName?_of_isAscii hcandidate) (bridgeName?_of_isAscii hcandidate) bytes,
      nothingFails_append (nothingFails_made [.removeAddress interface address])
        (nothingFails_append hbytes (nothingFails_made (.setMac interface _ :: _)))⟩
  | redirected interface mac =>
    exact ⟨_, _, .redirected (tapName?_of_isAscii hcandidate), nothingFails_made _⟩

/-- All candidates can be handed over without a failure. -/
theorem exists_allGive (dns : GuestDns)
    (hascii : ∀ candidate ∈ candidates, IsAscii candidate.interface) :
    ∃ history network, AllGive dns candidates history network ∧ NothingFails history := by
  induction candidates with
  | nil => exact ⟨[], _, .nil, fun _ _ ↦ List.not_mem_nil⟩
  | cons candidate candidates ih =>
    obtain ⟨hcandidate, hcandidates⟩ := List.forall_mem_cons.1 hascii
    obtain ⟨before, given, hfirst, hbefore⟩ := candidate.exists_gives dns hcandidate
    obtain ⟨after, rest, hlater, hafter⟩ := ih hcandidates
    exact ⟨_, _, .cons hfirst hlater, nothingFails_append hbefore hafter⟩

/-! ## The devices created -/

def createdTap? : Event Links → Option String
  | ⟨.change (.createTap name), _⟩ => some name
  | _ => none

def createdBridge? : Event Links → Option String
  | ⟨.change (.createBridge name), _⟩ => some name
  | _ => none

/-- The names that taps are created under. -/
def createdTaps (history : History Links) : List String := history.filterMap createdTap?

/-- The names that bridges are created under. -/
def createdBridges (history : History Links) : List String := history.filterMap createdBridge?

/-- Each candidate has one tap created for it. -/
theorem AllGive.map_createdTaps (hgive : AllGive dns candidates history network) :
    (createdTaps history).map some =
      candidates.map fun candidate ↦ tapName? candidate.interface := by
  induction hgive with
  | nil => rfl
  | cons first _ ih =>
    rw [createdTaps, List.filterMap_append, List.map_append, List.map_cons]
    cases first with
    | leased htap => exact congrArg₂ (· :: ·) htap.symm ih
    | redirected htap => exact congrArg₂ (· :: ·) htap.symm ih

/-- Each leased candidate has one bridge created for it. -/
theorem AllGive.map_createdBridges (hgive : AllGive dns candidates history network) :
    (createdBridges history).map some = (candidates.filter Candidate.isLeased).map fun candidate ↦
      bridgeName? candidate.interface := by
  induction hgive with
  | nil => rfl
  | cons first _ ih =>
    rw [createdBridges, List.filterMap_append, List.map_append]
    cases first with
    | leased _ hbridge => exact congrArg₂ (· :: ·) hbridge.symm ih
    | redirected => exact ih

/-- The guest cards are attached to the taps created, if in another order. -/
theorem AllGive.perm_taps (hgive : AllGive dns candidates history network) :
    (network.guestNics.map GuestNic.tap).Perm (createdTaps history) := by
  induction hgive with
  | nil => exact .nil
  | @cons _ _ _ _ given rest first _ ih =>
    rw [createdTaps, List.filterMap_append]
    cases first with
    | leased => exact ih.cons _
    | @redirected interface tap mac =>
      have hcards : (NetworkSetup.append ⟨[], [⟨interface, tap, mac⟩]⟩ rest).guestNics.Perm
          (⟨tap, mac⟩ :: rest.guestNics) := List.perm_middle
      exact (hcards.map GuestNic.tap).trans (ih.cons tap)

/-- The bridges of the leases are those that were created, in their order. -/
theorem AllGive.map_bridges (hgive : AllGive dns candidates history network) :
    network.leases.map Lease.bridge = createdBridges history := by
  induction hgive with
  | nil => rfl
  | cons first _ ih =>
    rw [createdBridges, List.filterMap_append]
    cases first with
    | leased => exact congrArg (_ :: ·) ih
    | redirected => exact ih

/-! ## The names of the devices -/

/-- What the names of a candidate's devices hold of its interface's name. -/
def Candidate.namePart (candidate : Candidate) : List Char := Network.namePart candidate.interface

/-- Two ways to name things that tell the same ones apart. -/
theorem nodup_map_iff_of_agree {α β γ : Type} {items : List α} {f : α → β} {g : α → γ}
    (hagree : ∀ a ∈ items, ∀ b ∈ items, f a = f b ↔ g a = g b) :
    (items.map f).Nodup ↔ (items.map g).Nodup := by
  rw [List.Nodup, List.pairwise_map, List.Nodup, List.pairwise_map]
  exact List.Pairwise.iff_of_mem fun ha hb ↦ not_congr (hagree _ ha _ hb)

theorem AllGive.nodup_taps_iff (hgive : AllGive dns candidates history network)
    (hascii : ∀ candidate ∈ candidates, IsAscii candidate.interface) :
    (createdTaps history).Nodup ↔ (candidates.map Candidate.namePart).Nodup := by
  rw [← List.nodup_map_iff (Option.some_injective String), hgive.map_createdTaps]
  exact nodup_map_iff_of_agree fun a ha b hb ↦ tapName?_eq_iff (hascii a ha) (hascii b hb)

theorem AllGive.nodup_bridges_iff (hgive : AllGive dns candidates history network)
    (hascii : ∀ candidate ∈ candidates, IsAscii candidate.interface) :
    (createdBridges history).Nodup ↔
      ((candidates.filter Candidate.isLeased).map Candidate.namePart).Nodup := by
  rw [← List.nodup_map_iff (Option.some_injective String), hgive.map_createdBridges]
  exact nodup_map_iff_of_agree fun a ha b hb ↦
    bridgeName?_eq_iff (hascii a (List.mem_of_mem_filter ha)) (hascii b (List.mem_of_mem_filter hb))

theorem AllGive.exists_tapName? (hgive : AllGive dns candidates history network) {tap : String}
    (htap : tap ∈ createdTaps history) :
    ∃ candidate ∈ candidates, tapName? candidate.interface = some tap := by
  have hnamed := List.mem_map_of_mem (f := some) htap
  rw [hgive.map_createdTaps] at hnamed
  exact List.mem_map.1 hnamed

theorem AllGive.exists_bridgeName? (hgive : AllGive dns candidates history network)
    {bridge : String} (hbridge : bridge ∈ createdBridges history) :
    ∃ candidate ∈ candidates, bridgeName? candidate.interface = some bridge := by
  have hnamed := List.mem_map_of_mem (f := some) hbridge
  rw [hgive.map_createdBridges] at hnamed
  obtain ⟨candidate, hcandidate, hname⟩ := List.mem_map.1 hnamed
  exact ⟨candidate, List.mem_of_mem_filter hcandidate, hname⟩

/-- Names that fit whole are told apart by what is left of them. -/
theorem nodup_nameParts (hdistinct : (candidates.map Candidate.interface).Nodup)
    (hshort : ∀ candidate ∈ candidates, candidate.interface.toList.length ≤ maxNamePart) :
    (candidates.map Candidate.namePart).Nodup :=
  (nodup_map_iff_of_agree fun a ha b hb ↦ namePart_eq_iff (hshort a ha) (hshort b hb)).2 hdistinct

/-- What a takeover has created for the candidates. -/
structure CreatesDevices (candidates : List Candidate) (history : History Links)
    (network : NetworkSetup) : Prop where
  /-- The guest cards are attached to the taps created, one each. -/
  perm_taps : (network.guestNics.map GuestNic.tap).Perm (createdTaps history)
  /-- The leases are on the bridges created, one each. -/
  map_bridges : network.leases.map Lease.bridge = createdBridges history
  taps_fit : ∀ tap ∈ createdTaps history, tap.utf8ByteSize ≤ maxDeviceName
  bridges_fit : ∀ bridge ∈ createdBridges history, bridge.utf8ByteSize ≤ maxDeviceName
  bridge_ne_tap : ∀ bridge ∈ createdBridges history, ∀ tap ∈ createdTaps history, bridge ≠ tap
  nodup_taps_iff : (createdTaps history).Nodup ↔ (candidates.map Candidate.namePart).Nodup
  nodup_bridges_iff : (createdBridges history).Nodup ↔
    ((candidates.filter Candidate.isLeased).map Candidate.namePart).Nodup
  /-- Different names of at most twelve characters lead to different devices. -/
  nodup_of_short : (candidates.map Candidate.interface).Nodup →
    (∀ candidate ∈ candidates, candidate.interface.toList.length ≤ maxNamePart) →
      (createdTaps history).Nodup ∧ (createdBridges history).Nodup

theorem AllGive.createsDevices (hgive : AllGive dns candidates history network)
    (hascii : ∀ candidate ∈ candidates, IsAscii candidate.interface) :
    CreatesDevices candidates history network where
  perm_taps := hgive.perm_taps
  map_bridges := hgive.map_bridges
  taps_fit tap htap := by
    obtain ⟨_, -, hname⟩ := hgive.exists_tapName? htap
    exact utf8ByteSize_of_deviceName? hname
  bridges_fit bridge hbridge := by
    obtain ⟨_, -, hname⟩ := hgive.exists_bridgeName? hbridge
    exact utf8ByteSize_of_deviceName? hname
  bridge_ne_tap bridge hbridge tap htap := by
    obtain ⟨leased, hleased, hbridgeName⟩ := hgive.exists_bridgeName? hbridge
    obtain ⟨candidate, hcandidate, htapName⟩ := hgive.exists_tapName? htap
    exact bridge_ne_tap (hascii leased hleased) (hascii candidate hcandidate) hbridgeName htapName
  nodup_taps_iff := hgive.nodup_taps_iff hascii
  nodup_bridges_iff := hgive.nodup_bridges_iff hascii
  nodup_of_short hdistinct hshort := by
    have hparts := nodup_nameParts hdistinct hshort
    refine ⟨(hgive.nodup_taps_iff hascii).2 hparts, (hgive.nodup_bridges_iff hascii).2 ?_⟩
    exact hparts.sublist (List.filter_sublist.map _)

/-- A takeover of ASCII names in which nothing fails gives every guest card a tap and every lease a
bridge. These differ from one another exactly if the interface names differ in what device names
hold of them. -/
theorem takeOver_createsDevices
    (hascii : ∀ candidate ∈ candidates, IsAscii candidate.interface)
    (hrun : (takeOver dns candidates).attempt.IsRun history result)
    (hfine : NothingFails history) :
    ∃ network, result = some (.ok network) ∧ CreatesDevices candidates history network := by
  obtain ⟨network, rfl, hgive⟩ := allGive_of_nothingFails hascii hrun hfine
  exact ⟨network, rfl, hgive.createsDevices hascii⟩

namespace Sample

def deviceDns : GuestDns := ⟨[], []⟩

def deviceMac : Mac := ⟨⟨[2, 66, 172, 17, 0, 5], rfl⟩⟩

def deviceAddress : Cidr := ⟨⟨0x0a000002⟩, 16, by decide⟩

/-- An interface to lease from and one to redirect. -/
def plainCandidates : List Candidate :=
  [.leased "eth0" deviceMac deviceAddress none, .redirected "eth1" deviceMac]

/-- Two interfaces whose names begin alike. -/
def likeCandidates : List Candidate := [
  .leased "abcdefghijkl012" deviceMac deviceAddress none,
  .leased "abcdefghijkl345" deviceMac deviceAddress none]

theorem isAscii_likeCandidates :
    ∀ candidate ∈ likeCandidates, IsAscii candidate.interface := by decide

end Sample

/-- One interface that is leased and one that is redirected get devices of their own. -/
theorem takeOver_createsDevices_plain : ∃ history result network,
    (takeOver Sample.deviceDns Sample.plainCandidates).attempt.IsRun history result ∧
    NothingFails history ∧ result = some (.ok network) ∧
    CreatesDevices Sample.plainCandidates history network := by
  have hascii : ∀ candidate ∈ Sample.plainCandidates, IsAscii candidate.interface := by decide
  obtain ⟨history, network, hgive, hfine⟩ := exists_allGive Sample.deviceDns hascii
  have hrun := isRun_takeOver_ok_iff.2 hgive
  obtain ⟨network, hresult, hdevices⟩ := takeOver_createsDevices hascii hrun hfine
  exact ⟨history, _, network, hrun, hfine, hresult, hdevices⟩

/-- Different names that the kernel allows can lead to one tap for two guest cards. -/
theorem takeOver_creates_tap_twice :
    (Sample.likeCandidates.map Candidate.interface).Nodup ∧
    (∀ candidate ∈ Sample.likeCandidates,
      IsAscii candidate.interface ∧ candidate.interface.utf8ByteSize ≤ maxDeviceName) ∧
    ∃ history network,
      (takeOver Sample.deviceDns Sample.likeCandidates).attempt.IsRun history
        (some (.ok network)) ∧
      NothingFails history ∧ createdTaps history = ["vm_abcdefghijkl", "vm_abcdefghijkl"] ∧
      createdBridges history = ["br_abcdefghijkl", "br_abcdefghijkl"] ∧
      ¬ (network.guestNics.map GuestNic.tap).Nodup := by
  obtain ⟨history, network, hgive, hfine⟩ :=
    exists_allGive Sample.deviceDns Sample.isAscii_likeCandidates
  have hinjective := List.map_injective_iff.2 (Option.some_injective String)
  have htaps : createdTaps history = ["vm_abcdefghijkl", "vm_abcdefghijkl"] :=
    hinjective (hgive.map_createdTaps.trans (by decide))
  have hbridges : createdBridges history = ["br_abcdefghijkl", "br_abcdefghijkl"] :=
    hinjective (hgive.map_createdBridges.trans (by decide))
  refine ⟨by decide, by decide, history, network, isRun_takeOver_ok_iff.2 hgive, hfine, htaps,
    hbridges, ?_⟩
  rw [hgive.perm_taps.nodup_iff, htaps]
  decide

end MicroVm.Network
