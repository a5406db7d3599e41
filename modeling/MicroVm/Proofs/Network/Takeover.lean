import Mathlib.Data.List.Perm.Basic
import MicroVm.Network.Takeover
import MicroVm.Proofs.Program.Runs

/-!
# What a takeover gives

A takeover that succeeds makes the changes of each candidate in turn, all of them with success, and
gives a lease for each leased candidate and a guest card for each redirected one. Both are in the
order of the candidates they belong to. So the leases can be counted off against the leased
candidates, and every candidate has one guest card.
-/

namespace MicroVm.Network

variable {change : Change} {changes : List Change} {candidate : Candidate}
  {candidates : List Candidate} {dns : GuestDns} {setup given network : NetworkSetup}
  {history : History Links} {name : String}

/-! ## Changes -/

theorem isRun_change_iff {result : Option (Except Failure Unit)} :
    (Links.change change).attempt.IsRun history result ↔
      ∃ answer, history = [⟨.change change, answer⟩] ∧ result = some answer :=
  Program.isRun_perform_iff

theorem isRun_randomBytes_iff {result : Option (Octets 6)} :
    Links.randomBytes.IsRun history result ↔
      ∃ bytes, history = [⟨.randomBytes, bytes⟩] ∧ result = some bytes :=
  Program.isRun_perform_iff

/-- A change that succeeded. -/
def made (change : Change) : Event Links := ⟨.change change, .ok ()⟩

theorem isRun_change_ok_iff :
    (Links.change change).attempt.IsRun history (some (.ok ())) ↔ history = [made change] := by
  rw [isRun_change_iff]
  constructor
  · rintro ⟨answer, rfl, hanswer⟩
    obtain rfl := Option.some.inj hanswer
    rfl
  · rintro rfl
    exact ⟨.ok (), rfl, rfl⟩

theorem isRun_change_bind_ok_iff {α : Type} {next : Unit → Task Links α} {value : α} :
    (Links.change change >>= next).attempt.IsRun history (some (.ok value)) ↔
      ∃ rest, history = made change :: rest ∧
        (next ()).attempt.IsRun rest (some (.ok value)) := by
  rw [Task.isRun_bind_ok_iff]
  constructor
  · rintro ⟨_, before, rest, rfl, hbefore, hrest⟩
    obtain rfl := isRun_change_ok_iff.1 hbefore
    exact ⟨rest, rfl, hrest⟩
  · rintro ⟨rest, rfl, hrest⟩
    exact ⟨(), [made change], rest, rfl, isRun_change_ok_iff.2 rfl, hrest⟩

/-- Several changes succeed exactly when each of them does, in their order. -/
theorem isRun_changeAll_ok_iff : (changeAll changes).attempt.IsRun history (some (.ok ())) ↔
    history = changes.map made := by
  induction changes generalizing history with
  | nil => exact Program.isRun_done_iff.trans (and_iff_left rfl)
  | cons change changes ih =>
    rw [changeAll, isRun_change_bind_ok_iff]
    simp only [ih, exists_eq_right, List.map_cons]

/-- A task that ends with changes makes all of them. -/
theorem isRun_changeAll_return_ok_iff {α : Type} {value ended : α} :
    (changeAll changes >>= fun _ ↦ pure value).attempt.IsRun history (some (.ok ended)) ↔
      history = changes.map made ∧ ended = value := by
  rw [Task.isRun_bind_ok_iff]
  constructor
  · rintro ⟨_, before, after, rfl, hbefore, hafter⟩
    obtain ⟨rfl, rfl⟩ := Task.isRun_pure_ok_iff.1 hafter
    rw [List.append_nil]
    exact ⟨isRun_changeAll_ok_iff.1 hbefore, rfl⟩
  · rintro ⟨rfl, rfl⟩
    exact ⟨(), _, [], (List.append_nil _).symm, isRun_changeAll_ok_iff.2 rfl,
      Task.isRun_pure_ok_iff.2 ⟨rfl, rfl⟩⟩

theorem requireName_some_bind {α : Type} (next : String → Task Links α) :
    requireName (some name) >>= next = next name := rfl

/-- A task that needs a name goes on with it. -/
theorem isRun_requireName_bind_ok_iff {α : Type} {name? : Option String}
    {next : String → Task Links α} {value : α} :
    (requireName name? >>= next).attempt.IsRun history (some (.ok value)) ↔
      ∃ name, name? = some name ∧ (next name).attempt.IsRun history (some (.ok value)) := by
  cases name? with
  | none => simp [requireName, Task.isRun_bind_ok_iff, Task.crash]
  | some name => simp [requireName]

/-! ## What one candidate gives -/

/-- What handing over one candidate gives, and what is asked for it. -/
inductive Candidate.Gives (dns : GuestDns) : Candidate → History Links → NetworkSetup → Prop
  | leased {interface bridge tap : String} {mac : Mac} {address : Cidr} {gateway : Option Ipv4}
      (tapName : tapName? interface = some tap) (bridgeName : bridgeName? interface = some bridge)
      (bytes : Octets 6) :
      Gives dns (.leased interface mac address gateway)
        (made (.removeAddress interface address) :: ⟨.randomBytes, bytes⟩ ::
          made (.setMac interface (Mac.localOfRandom bytes)) ::
          (bridgeChanges interface bridge tap).map made)
        ⟨[{ interface, bridge, tap, address, gateway, mac, dns := dns.v4, dns6 := dns.v6 }], []⟩
  | redirected {interface tap : String} {mac : Mac} (tapName : tapName? interface = some tap) :
      Gives dns (.redirected interface mac) ((redirectChanges interface tap).map made)
        ⟨[], [⟨interface, tap, mac⟩]⟩

/-- What is given first and then. -/
def NetworkSetup.append (first later : NetworkSetup) : NetworkSetup :=
  ⟨first.leases ++ later.leases, first.passthroughs ++ later.passthroughs⟩

theorem NetworkSetup.append_lease (lease : Lease) :
    setup.append ⟨[lease], []⟩ = { setup with leases := setup.leases ++ [lease] } := by
  rw [append, List.append_nil]

theorem NetworkSetup.append_passthrough (nic : Passthrough) :
    setup.append ⟨[], [nic]⟩ = { setup with passthroughs := setup.passthroughs ++ [nic] } := by
  rw [append, List.append_nil]

theorem isRun_leaseInterface_ok_iff {interface : String} {mac : Mac} {address : Cidr}
    {gateway : Option Ipv4} {lease : Lease} :
    (leaseInterface interface mac address gateway dns).attempt.IsRun history (some (.ok lease)) ↔
      Candidate.Gives dns (.leased interface mac address gateway) history ⟨[lease], []⟩ := by
  unfold leaseInterface
  simp only [isRun_requireName_bind_ok_iff, isRun_change_bind_ok_iff,
    Task.isRun_request_bind_iff fun _ _ ↦ isRun_randomBytes_iff, isRun_changeAll_return_ok_iff]
  constructor
  · rintro ⟨tap, htap, bridge, hbridge, _, rfl, bytes, _, rfl, _, rfl, rfl, rfl⟩
    exact .leased htap hbridge bytes
  · intro hgives
    cases hgives with
    | leased htap hbridge bytes =>
      exact ⟨_, htap, _, hbridge, _, rfl, bytes, _, rfl, _, rfl, rfl, rfl⟩

/-- Redirecting an interface succeeds by one history for the card that it gives. -/
theorem isRun_redirectInterface_ok_iff (dns : GuestDns) {interface : String} {mac : Mac}
    {nic : Passthrough} :
    (redirectInterface interface mac).attempt.IsRun history (some (.ok nic)) ↔
      Candidate.Gives dns (.redirected interface mac) history ⟨[], [nic]⟩ := by
  unfold redirectInterface
  simp only [isRun_requireName_bind_ok_iff, isRun_changeAll_return_ok_iff]
  constructor
  · rintro ⟨tap, htap, rfl, rfl⟩
    exact .redirected htap
  · intro hgives
    cases hgives with
    | redirected htap => exact ⟨_, htap, rfl, rfl⟩

theorem Candidate.Gives.eq_leased {interface : String} {mac : Mac} {address : Cidr}
    {gateway : Option Ipv4}
    (hgives : Gives dns (.leased interface mac address gateway) history given) :
    ∃ lease, given = ⟨[lease], []⟩ := by
  cases hgives
  exact ⟨_, rfl⟩

theorem Candidate.Gives.eq_redirected {interface : String} {mac : Mac}
    (hgives : Gives dns (.redirected interface mac) history given) :
    ∃ nic, given = ⟨[], [nic]⟩ := by
  cases hgives
  exact ⟨_, rfl⟩

theorem isRun_takeOverOne_ok_iff {after : NetworkSetup} :
    (takeOverOne dns setup candidate).attempt.IsRun history (some (.ok after)) ↔
      ∃ given, candidate.Gives dns history given ∧ after = setup.append given := by
  cases candidate with
  | leased interface mac address gateway =>
    simp only [takeOverOne, Task.isRun_bind_ok_iff, Task.isRun_within_ok_iff,
      isRun_leaseInterface_ok_iff, Task.isRun_pure_ok_iff]
    constructor
    · rintro ⟨lease, _, _, rfl, hgives, rfl, rfl⟩
      rw [List.append_nil]
      exact ⟨_, hgives, (NetworkSetup.append_lease lease).symm⟩
    · rintro ⟨given, hgives, rfl⟩
      obtain ⟨lease, rfl⟩ := hgives.eq_leased
      exact ⟨lease, _, [], (List.append_nil _).symm, hgives, rfl, NetworkSetup.append_lease lease⟩
  | redirected interface mac =>
    simp only [takeOverOne, Task.isRun_bind_ok_iff, Task.isRun_within_ok_iff,
      isRun_redirectInterface_ok_iff dns, Task.isRun_pure_ok_iff]
    constructor
    · rintro ⟨nic, _, _, rfl, hgives, rfl, rfl⟩
      rw [List.append_nil]
      exact ⟨_, hgives, (NetworkSetup.append_passthrough nic).symm⟩
    · rintro ⟨given, hgives, rfl⟩
      obtain ⟨nic, rfl⟩ := hgives.eq_redirected
      exact ⟨nic, _, [], (List.append_nil _).symm, hgives, rfl,
        NetworkSetup.append_passthrough nic⟩

/-! ## What a whole takeover gives -/

/-- What handing over candidates one after the other gives, and what is asked for them. -/
inductive AllGive (dns : GuestDns) : List Candidate → History Links → NetworkSetup → Prop
  | nil : AllGive dns [] [] .empty
  | cons {candidate : Candidate} {candidates : List Candidate} {before after : History Links}
      {given rest : NetworkSetup} (first : candidate.Gives dns before given)
      (later : AllGive dns candidates after rest) :
      AllGive dns (candidate :: candidates) (before ++ after) (given.append rest)

theorem NetworkSetup.append_empty (setup : NetworkSetup) : setup.append .empty = setup := by
  simp [append, empty]

theorem NetworkSetup.empty_append (setup : NetworkSetup) : empty.append setup = setup := rfl

theorem NetworkSetup.append_assoc (first middle last : NetworkSetup) :
    (first.append middle).append last = first.append (middle.append last) := by
  simp [append]

theorem isRun_takeOverFrom_ok_iff :
    (takeOverFrom dns setup candidates).attempt.IsRun history (some (.ok network)) ↔
      ∃ given, AllGive dns candidates history given ∧ network = setup.append given := by
  induction candidates generalizing history setup with
  | nil =>
    rw [takeOverFrom, Task.isRun_pure_ok_iff]
    constructor
    · rintro ⟨rfl, rfl⟩
      exact ⟨_, .nil, (NetworkSetup.append_empty _).symm⟩
    · rintro ⟨_, ⟨⟩, rfl⟩
      exact ⟨rfl, NetworkSetup.append_empty setup⟩
  | cons candidate candidates ih =>
    rw [takeOverFrom, Task.isRun_bind_ok_iff]
    simp only [isRun_takeOverOne_ok_iff, ih]
    constructor
    · rintro ⟨_, before, after, rfl, ⟨first, hfirst, rfl⟩, later, hlater, rfl⟩
      exact ⟨_, .cons hfirst hlater, NetworkSetup.append_assoc setup first later⟩
    · rintro ⟨_, hgive, rfl⟩
      cases hgive with
      | cons hfirst hlater =>
        exact ⟨_, _, _, rfl, ⟨_, hfirst, rfl⟩, _, hlater,
          (NetworkSetup.append_assoc setup _ _).symm⟩

theorem isRun_takeOver_ok_iff :
    (takeOver dns candidates).attempt.IsRun history (some (.ok network)) ↔
      AllGive dns candidates history network := by
  rw [takeOver, isRun_takeOverFrom_ok_iff]
  simp [NetworkSetup.empty_append]

/-! ## Which candidate each part belongs to -/

def Candidate.mac : Candidate → Mac
  | .leased _ mac _ _ => mac
  | .redirected _ mac => mac

def Candidate.isLeased : Candidate → Bool
  | .leased .. => true
  | .redirected .. => false

/-- The candidate that a lease belongs to. -/
def Lease.source (lease : Lease) : Candidate :=
  .leased lease.interface lease.mac lease.address lease.gateway

/-- The candidate that a redirected interface belongs to. -/
def Passthrough.source (nic : Passthrough) : Candidate := .redirected nic.interface nic.mac

/-- The leases belong to the leased candidates, in their order. -/
theorem AllGive.map_leases (hgive : AllGive dns candidates history network) :
    network.leases.map Lease.source = candidates.filter Candidate.isLeased := by
  induction hgive with
  | nil => rfl
  | cons first _ ih =>
    cases first with
    | leased => exact congrArg (_ :: ·) ih
    | redirected => exact ih

/-- The redirected interfaces belong to the other candidates, in their order. -/
theorem AllGive.map_passthroughs (hgive : AllGive dns candidates history network) :
    network.passthroughs.map Passthrough.source =
      candidates.filter fun candidate ↦ !candidate.isLeased := by
  induction hgive with
  | nil => rfl
  | cons first _ ih =>
    cases first with
    | leased => exact ih
    | redirected => exact congrArg (_ :: ·) ih

/-- The guest cards have the hardware addresses of the candidates, if in another order. -/
theorem AllGive.perm_macs (hgive : AllGive dns candidates history network) :
    (network.guestNics.map GuestNic.mac).Perm (candidates.map Candidate.mac) := by
  have hleases : network.leases.map Lease.mac =
      (network.leases.map Lease.source).map Candidate.mac := by
    rw [List.map_map]
    rfl
  have hothers : network.passthroughs.map Passthrough.mac =
      (network.passthroughs.map Passthrough.source).map Candidate.mac := by
    rw [List.map_map]
    rfl
  have hcards : network.guestNics.map GuestNic.mac =
      network.leases.map Lease.mac ++ network.passthroughs.map Passthrough.mac := by
    rw [NetworkSetup.guestNics, List.map_append, List.map_map, List.map_map]
    rfl
  rw [hcards, hleases, hothers, hgive.map_leases, hgive.map_passthroughs, ← List.map_append]
  exact (List.filter_append_perm _ _).map _

/-- The interface of a lease loses the address of the lease. -/
theorem AllGive.made_removeAddress_mem (hgive : AllGive dns candidates history network)
    {lease : Lease} (hlease : lease ∈ network.leases) :
    made (.removeAddress lease.interface lease.address) ∈ history := by
  induction hgive with
  | nil => cases hlease
  | cons first _ ih =>
    obtain hfirst | hlater := List.mem_append.1 hlease
    · cases first with
      | leased =>
        obtain rfl := List.mem_singleton.1 hfirst
        exact List.mem_append_left _ List.mem_cons_self
      | redirected => cases hfirst
    · exact List.mem_append_right _ (ih hlater)

end MicroVm.Network
