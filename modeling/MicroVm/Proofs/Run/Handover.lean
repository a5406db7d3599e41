import MicroVm.Proofs.Dhcp.V4.Answers
import MicroVm.Proofs.Network.Candidates
import MicroVm.Proofs.Network.Takeover
import MicroVm.Proofs.Run.SavedRecords

/-!
# The handover of identities

The guest takes the place of the container on its network. Each leased interface hands over its
hardware address and its IPv4 address, and from there on several parts count along: the guest cards,
the leases, the saved addresses and the responders. Here it is said that they agree, whatever leased
and redirected interfaces are found and in whatever order: a card below the number of leases is the
card of the lease at that place, and only its responder answers it; a card of a redirected interface
is answered by none.
-/

namespace MicroVm

open MicroVm.Network

/-! ## Who is answered -/

namespace Dhcp.V4

/-- Whether a packet is a discovery or a request from a hardware address. -/
structure Asks (mac : Mac) (question : Packet) : Prop where
  op : question.op = 1
  kind : IsFirst question.options 53 [1] ∨ IsFirst question.options 53 [3]
  hardwareKind : question.hardwareKind = 1
  hardwareLength : question.hardwareLength = 6
  mac : question.hardwareAddress.bytes.take 6 = mac.octets.bytes

variable {mac other : Mac} {lease : Lease} {question reply : Packet}

/-- A lease is answered exactly when its own card asks. -/
theorem exists_respond_iff_asks :
    (∃ reply, respond lease question = some reply) ↔ Asks lease.mac question := by
  rw [exists_respond_iff]
  constructor
  · rintro (⟨hop, hkind, hhardware, hlength, hmac⟩ | ⟨hop, hkind, hhardware, hlength, hmac⟩)
    · exact ⟨hop, .inl hkind, hhardware, hlength, hmac⟩
    · exact ⟨hop, .inr hkind, hhardware, hlength, hmac⟩
  · rintro ⟨hop, hkind | hkind, hhardware, hlength, hmac⟩
    · exact .inl ⟨hop, hkind, hhardware, hlength, hmac⟩
    · exact .inr ⟨hop, hkind, hhardware, hlength, hmac⟩

/-- A packet comes from one hardware address only. -/
theorem eq_of_hardwareAddress (hmac : question.hardwareAddress.bytes.take 6 = mac.octets.bytes)
    (hother : question.hardwareAddress.bytes.take 6 = other.octets.bytes) : mac = other :=
  Mac.ext (Octets.ext (hmac.symm.trans hother))

theorem mac_eq_of_respond (hreply : respond lease question = some reply)
    (hmac : question.hardwareAddress.bytes.take 6 = mac.octets.bytes) : lease.mac = mac :=
  eq_of_hardwareAddress (exists_respond_iff_asks.1 ⟨reply, hreply⟩).mac hmac

end Dhcp.V4

/-! ## Cards and leases -/

namespace Network.NetworkSetup

variable {network : NetworkSetup} {lease : Lease} {nic : GuestNic} {i j : ℕ}

/-- The card at a place below the number of leases is the card of the lease at that place. -/
theorem getElem?_guestNics (hlease : network.leases[i]? = some lease) :
    network.guestNics[i]? = some ⟨lease.tap, lease.mac⟩ := by
  have hcard : (network.leases.map fun lease ↦ (⟨lease.tap, lease.mac⟩ : GuestNic))[i]? =
      some ⟨lease.tap, lease.mac⟩ := by
    rw [List.getElem?_map, hlease]
    rfl
  rw [guestNics, List.getElem?_append_left (List.getElem?_eq_some_iff.1 hcard).1, hcard]

/-- Where no two cards have one hardware address, a lease has that of the card at its own place
only. -/
theorem eq_of_mac_eq (hdistinct : (network.guestNics.map GuestNic.mac).Nodup)
    (hlease : network.leases[i]? = some lease) (hnic : network.guestNics[j]? = some nic)
    (hmac : lease.mac = nic.mac) : i = j := by
  have hi : (network.guestNics.map GuestNic.mac)[i]? = some lease.mac := by
    rw [List.getElem?_map, getElem?_guestNics hlease]
    rfl
  have hj : (network.guestNics.map GuestNic.mac)[j]? = some nic.mac := by
    rw [List.getElem?_map, hnic]
    rfl
  refine (List.getElem?_inj (List.getElem?_eq_some_iff.1 hi).1 hdistinct).1 ?_
  rw [hi, hj, hmac]

end Network.NetworkSetup

/-! ## Provisions -/

namespace Run

open MicroVm.Host MicroVm.Hypervisor MicroVm.Machine

/-- A provision of the network that succeeded: which candidates were found, what the takeover gave,
and what was asked on the way. -/
structure Provision (runner : Runner) (record : Record) where
  candidates : List Candidate
  dns : GuestDns
  network : NetworkSetup
  discovered : History Links
  resolved : History Files
  takenOver : History Links
  isDiscovered : (discover (runner.discoveryOptions record)).attempt.IsRun discovered
    (some (.ok candidates))
  isResolved : (readDns runner.settings.resolverPath).IsRun resolved (some dns)
  isTakenOver : (takeOver dns candidates).attempt.IsRun takenOver (some (.ok network))

namespace Provision

variable {runner : Runner} {record : Record} (provision : Provision runner record)

/-- All that was asked in a provision. -/
def history : History Surroundings :=
  provision.discovered.map Surroundings.linkEvent ++
    (provision.resolved.map Surroundings.fileEvent ++
      provision.takenOver.map Surroundings.linkEvent)

theorem isRun : (runner.provideNetwork record).attempt.IsRun provision.history
    (some (.ok provision.network)) := by
  have hdiscovered := Surroundings.isRun_onLinks_iff.2 ⟨_, rfl, provision.isDiscovered⟩
  have hresolved := Surroundings.isRun_onFiles_iff.2 ⟨_, rfl, provision.isResolved.map .ok⟩
  have htakenOver := Surroundings.isRun_onLinks_iff.2 ⟨_, rfl, provision.isTakenOver⟩
  exact Task.isRun_bind hdiscovered (Task.isRun_bind hresolved htakenOver)

end Provision

section Handover

variable {runner : Runner} {record : Record} {network : NetworkSetup}
  {history : History Surroundings}

/-- Whenever the network is provided, that is such a provision. -/
theorem exists_provision
    (hrun : (runner.provideNetwork record).attempt.IsRun history (some (.ok network))) :
    ∃ provision : Provision runner record,
      provision.network = network ∧ provision.history = history := by
  obtain ⟨candidates, _, _, rfl, hdiscover, hrun⟩ := Task.isRun_bind_ok_iff.1 hrun
  obtain ⟨dns, _, _, rfl, hresolve, htakeOver⟩ := Task.isRun_bind_ok_iff.1 hrun
  obtain ⟨discovered, rfl, hdiscovered⟩ := Surroundings.isRun_onLinks_iff.1 hdiscover
  obtain ⟨resolved, rfl, hresolved⟩ := Surroundings.isRun_onFiles_iff.1 hresolve
  obtain ⟨takenOver, rfl, htakenOver⟩ := Surroundings.isRun_onLinks_iff.1 htakeOver
  obtain ⟨found, hfound, hequal⟩ := Program.isRun_map_iff.1 hresolved
  obtain ⟨_, rfl, hvalue⟩ := Option.map_eq_some_iff.1 hequal.symm
  obtain rfl := Except.ok.inj hvalue
  exact ⟨⟨candidates, _, network, discovered, resolved, takenOver, hdiscovered, hfound, htakenOver⟩,
    rfl, rfl⟩

/-! ## The network of a run -/

namespace Runner

variable {id root : String} {other : Record} {handles others : List TaskHandle}
  {before start rest later : History Surroundings} {result : Option (Except Failure Unit)}

theorem HasRoot.exists_hasNetwork (hroot : runner.HasRoot id record network handles root before) :
    ∃ start rest, runner.HasNetwork id record network handles start ∧ before = start ++ rest := by
  obtain ⟨hnetwork, -⟩ := hroot
  exact ⟨_, _, hnetwork, rfl⟩

theorem HasNetwork.eq_of_hasRoot {taken : NetworkSetup}
    (hbefore : runner.HasNetwork id record network handles before)
    (hroot : runner.HasRoot id other taken others root start)
    (hwhole : before ++ rest = start ++ later) : network = taken := by
  obtain ⟨first, events, hfirst, rfl⟩ := hroot.exists_hasNetwork
  rw [List.append_assoc] at hwhole
  exact (hbefore.eq_of_append hfirst hwhole).2.1

theorem HasNetwork.exists_areStarted
    (hbefore : runner.HasNetwork id record network handles before) :
    ∃ started, AreStarted (responders network runner.settings.dhcpv6) handles started ∧
      started <:+ before := by
  obtain ⟨-, -, hstarted⟩ := hbefore
  exact ⟨_, hstarted, (List.suffix_append _ _).trans (List.suffix_append _ _)⟩

/-- A provision asks for something. -/
theorem history_ne_nil (provision : Provision runner record) : provision.history ≠ [] := by
  intro hnil
  obtain ⟨links, ⟨_, _, hlisted, -⟩, -⟩ := areChosen_of_isRun_discover provision.isDiscovered
  have hdiscovered := List.map_eq_nil_iff.1 (List.append_eq_nil_iff.1 hnil).1
  rw [hdiscovered] at hlisted
  exact absurd hlisted.symm (List.append_ne_nil_of_right_ne_nil _ (List.cons_ne_nil _ _))

/-- A run in which the network was provided goes on with responders for the leases. -/
theorem exists_hasNetwork (provision : Provision runner record)
    (hrun : (runner.run id).attempt.IsRun
      (⟨.load id, .ok record⟩ :: (provision.history ++ rest)) result) :
    ∃ handles start later, start ++ later = ⟨.load id, .ok record⟩ :: (provision.history ++ rest) ∧
      runner.HasNetwork id record provision.network handles start := by
  unfold run at hrun
  rw [← List.singleton_append, Task.isRun_append_iff (isRun_loading (.ok record))] at hrun
  cases hfit : checkRecord record with
  | error failure =>
    rw [hfit, Task.ofExcept_error_bind] at hrun
    obtain ⟨hnil, -⟩ := Program.isRun_done_iff.1 hrun
    exact absurd (List.append_eq_nil_iff.1 hnil).1 (history_ne_nil provision)
  | ok value =>
    rw [hfit, Task.ofExcept_ok_bind,
      Task.isRun_append_iff (Task.isRun_within_ok_iff.2 provision.isRun),
      Task.isRun_liftM_bind_iff_of_gives fun _ _ ↦ isRun_startAll_iff] at hrun
    obtain ⟨handles, started, later, rfl, hstarted, -⟩ := hrun
    refine ⟨handles, _, later, ?_, .intro hfit provision.isRun hstarted⟩
    rw [List.append_assoc, List.append_assoc]
    rfl

/-- A record that is saved as running has the addresses of the network of its run. -/
theorem SavePlace.addresses_eq {saved : Record}
    (hplace : runner.SavePlace id before saved later)
    (hnetwork : runner.HasNetwork id record network handles start) {event : Event Surroundings}
    (hwhole : start ++ rest = before ++ event :: later)
    (hrunning : saved.status.isRunning = true) : saved.addresses = network.addresses := by
  cases hplace with
  | running now _ hroot =>
    rw [List.append_assoc] at hwhole
    rw [hnetwork.eq_of_hasRoot hroot hwhole]
    exact (showsRunning_runningRecord _ _ _).addresses
  | stopped =>
    rw [(showsStopped_stoppedRecord _).isRunning] at hrunning
    cases hrunning

/-- The guest is booted with the cards of the network of its run. -/
theorem IsSupervised.nics_eq {uid : String} {config : BootConfig} {ended : Supervised}
    {events : History Surroundings} {stopped : Supervised} {released saved : Except Failure Unit}
    (hsupervised : runner.IsSupervised record handles (runner.bootConfig other network root)
      (⟨.supervise uid config, ended⟩ :: events) stopped released saved) :
    config.nics = network.guestNics := by
  cases hsupervised
  rfl

end Runner

/-! ## One to one -/

/-- What a guest card has of the lease at its place in a run. -/
structure TakesOver (network : NetworkSetup) (links : List Link) (history : History Surroundings)
    (j : ℕ) (nic : GuestNic) (lease : Lease) : Prop where
  tap_eq : nic.tap = lease.tap
  /-- The interface had the hardware address of the card and the address of the lease when it was
  read last. -/
  link : ∃ link ∈ links, link.name = lease.interface ∧ link.mac = some nic.mac ∧
    link.addresses.head? = some lease.address
  removed : (⟨.link (.change (.removeAddress lease.interface lease.address)), .ok ()⟩ :
    Event Surroundings) ∈ history
  saved : ∀ saved answer, (⟨.save saved, answer⟩ : Event Surroundings) ∈ history →
    saved.status.isRunning = true → saved.addresses[j]? = some lease.address.address
  answered : ∀ question, Dhcp.V4.Asks nic.mac question →
    ∃ reply, Dhcp.V4.respond lease question = some reply ∧
      reply.yourAddress = lease.address.address
  by_no_other : ∀ (i : ℕ) other, network.leases[i]? = some other → i ≠ j →
    ∀ question, Dhcp.V4.Asks nic.mac question → Dhcp.V4.respond other question = none

/-- Whether the parts of a run agree on which card takes over what. -/
structure Provision.IsOneToOne (provision : Provision runner record)
    (history : History Surroundings) : Prop where
  served : ∃ handles started,
    AreStarted (responders provision.network runner.settings.dhcpv6) handles started ∧
      started <:+: history
  booted : ∀ uid config ended, (⟨.supervise uid config, ended⟩ : Event Surroundings) ∈ history →
    config.nics = provision.network.guestNics
  leased : ∃ links, EndsWithListing provision.discovered links ∧
    ∀ (j : ℕ) nic lease, provision.network.guestNics[j]? = some nic →
      provision.network.leases[j]? = some lease →
      TakesOver provision.network links history j nic lease
  redirected : ∀ (j : ℕ) nic, provision.network.guestNics[j]? = some nic →
    provision.network.leases.length ≤ j → ∀ lease ∈ provision.network.leases, ∀ question,
      question.hardwareAddress.bytes.take 6 = nic.mac.octets.bytes →
      Dhcp.V4.respond lease question = none
  answered_once : ∀ question (i j : ℕ) lease other, provision.network.leases[i]? = some lease →
    provision.network.leases[j]? = some other → Dhcp.V4.respond lease question ≠ none →
    Dhcp.V4.respond other question ≠ none → i = j

namespace Provision

variable {provision : Provision runner record} {links : List Link} {lease : Lease}

theorem allGive :
    AllGive provision.dns provision.candidates provision.takenOver provision.network :=
  isRun_takeOver_ok_iff.1 provision.isTakenOver

/-- A lease is that of an interface in the last reading. -/
theorem exists_link (hchosen : AreChosen provision.discovered links provision.candidates)
    (hlease : lease ∈ provision.network.leases) :
    ∃ link ∈ links, link.name = lease.interface ∧ link.mac = some lease.mac ∧
      link.addresses.head? = some lease.address := by
  have hsource : lease.source ∈ provision.candidates := by
    have hmem := List.mem_map_of_mem (f := Lease.source) hlease
    rw [provision.allGive.map_leases] at hmem
    exact List.mem_of_mem_filter hmem
  obtain ⟨link, hlink, hoffer⟩ := hchosen.exists_offers hsource
  obtain ⟨interface, bridge, tap, address, gateway, mac, dns, dns6⟩ := lease
  cases hoffer with
  | leased gateway hmac haddresses =>
    refine ⟨link, hlink, rfl, hmac, ?_⟩
    rw [haddresses]
    rfl

/-- Distinct hardware addresses of the candidates are distinct hardware addresses of the cards. -/
theorem nodup_macs (hdistinct : (provision.candidates.map Candidate.mac).Nodup) :
    (provision.network.guestNics.map GuestNic.mac).Nodup :=
  provision.allGive.perm_macs.nodup_iff.2 hdistinct

theorem removeAddress_mem (hlease : lease ∈ provision.network.leases) :
    (⟨.link (.change (.removeAddress lease.interface lease.address)), .ok ()⟩ :
      Event Surroundings) ∈ provision.history := by
  have hmade := provision.allGive.made_removeAddress_mem hlease
  have hevent := List.mem_map_of_mem (f := Surroundings.linkEvent) hmade
  exact List.mem_append_right _ (List.mem_append_right _ hevent)

/-- Only the responder of the lease at the place of a card answers what comes from the card. -/
theorem respond_eq_none {i j : ℕ} {nic : GuestNic} {question : Dhcp.V4.Packet}
    (hdistinct : (provision.candidates.map Candidate.mac).Nodup)
    (hlease : provision.network.leases[i]? = some lease)
    (hnic : provision.network.guestNics[j]? = some nic) (hne : i ≠ j)
    (hmac : question.hardwareAddress.bytes.take 6 = nic.mac.octets.bytes) :
    Dhcp.V4.respond lease question = none := by
  refine Option.eq_none_iff_forall_ne_some.2 fun reply hreply ↦ hne ?_
  exact NetworkSetup.eq_of_mac_eq (nodup_macs hdistinct) hlease hnic
    (Dhcp.V4.mac_eq_of_respond hreply hmac)

end Provision

section Runs

variable {id : String} {handles : List TaskHandle} {start later : History Surroundings}
  {result : Option (Except Failure Unit)}

/-- What is saved as running in a run has the addresses of its network. -/
theorem addresses_of_mem_save (hnetwork : runner.HasNetwork id record network handles start)
    (hrun : (runner.run id).attempt.IsRun (start ++ later) result) {saved : Record}
    {answer : Except Failure Unit}
    (hmem : (⟨.save saved, answer⟩ : Event Surroundings) ∈ start ++ later)
    (hrunning : saved.status.isRunning = true) : saved.addresses = network.addresses := by
  obtain ⟨before, after, hsplit⟩ := List.append_of_mem hmem
  have hplace := (Runner.course_of_isRun hrun).savePlace hsplit
  exact hplace.addresses_eq hnetwork hsplit hrunning

/-- What is supervised in a run has the cards of its network. -/
theorem nics_of_mem_supervise (hnetwork : runner.HasNetwork id record network handles start)
    (hrun : (runner.run id).attempt.IsRun (start ++ later) result) {uid : String}
    {config : BootConfig} {ended : Supervised}
    (hmem : (⟨.supervise uid config, ended⟩ : Event Surroundings) ∈ start ++ later) :
    config.nics = network.guestNics := by
  obtain ⟨before, after, hsplit⟩ := List.append_of_mem hmem
  obtain ⟨_, taken, _, _, _, _, _, hsaved, hsupervised, -⟩ :=
    (Runner.course_of_isRun hrun).supervisePlace hsplit
  obtain ⟨now, hroot⟩ := hsaved
  rw [List.append_assoc] at hsplit
  rw [hnetwork.eq_of_hasRoot hroot hsplit]
  exact hsupervised.nics_eq

end Runs

namespace Provision

variable {provision : Provision runner record} {links : List Link} {i j : ℕ} {nic : GuestNic}
  {lease other : Lease} {question : Dhcp.V4.Packet}

/-- A card below the number of leases takes over what the lease at its place says. -/
theorem takesOver (hdistinct : (provision.candidates.map Candidate.mac).Nodup)
    (hchosen : AreChosen provision.discovered links provision.candidates)
    (hprovision : provision.history ⊆ history)
    (hsaves : ∀ saved answer, (⟨.save saved, answer⟩ : Event Surroundings) ∈ history →
      saved.status.isRunning = true → saved.addresses = provision.network.addresses)
    (hnic : provision.network.guestNics[j]? = some nic)
    (hlease : provision.network.leases[j]? = some lease) :
    TakesOver provision.network links history j nic lease := by
  have hmem : lease ∈ provision.network.leases := List.mem_of_getElem? hlease
  obtain rfl : ⟨lease.tap, lease.mac⟩ = nic :=
    Option.some.inj ((NetworkSetup.getElem?_guestNics hlease).symm.trans hnic)
  constructor
  · rfl
  · exact exists_link hchosen hmem
  · exact hprovision (removeAddress_mem hmem)
  · intro saved answer hsave hrunning
    rw [hsaves saved answer hsave hrunning, NetworkSetup.addresses, List.getElem?_map, hlease]
    rfl
  · intro question hasks
    obtain ⟨reply, hreply⟩ := Dhcp.V4.exists_respond_iff_asks.2 hasks
    obtain ⟨kind, hanswer⟩ := Dhcp.V4.exists_isAnswer hreply
    exact ⟨reply, hreply, hanswer.yourAddress⟩
  · intro i other hother hne question hasks
    exact respond_eq_none hdistinct hother hnic hne hasks.mac

/-- Two leases that answer one question are the same. -/
theorem eq_of_respond (hdistinct : (provision.candidates.map Candidate.mac).Nodup)
    (hlease : provision.network.leases[i]? = some lease)
    (hother : provision.network.leases[j]? = some other)
    (hanswer : Dhcp.V4.respond lease question ≠ none)
    (hanother : Dhcp.V4.respond other question ≠ none) : i = j := by
  obtain ⟨reply, hreply⟩ := Option.ne_none_iff_exists'.1 hanother
  have hasks := Dhcp.V4.exists_respond_iff_asks.1 ⟨reply, hreply⟩
  by_contra hne
  exact hanswer
    (respond_eq_none hdistinct hlease (NetworkSetup.getElem?_guestNics hother) hne hasks.mac)

/-- A card that is no lease's is answered by no responder. -/
theorem respond_eq_none_of_le (hdistinct : (provision.candidates.map Candidate.mac).Nodup)
    (hnic : provision.network.guestNics[j]? = some nic)
    (hle : provision.network.leases.length ≤ j) (hmem : lease ∈ provision.network.leases)
    (hmac : question.hardwareAddress.bytes.take 6 = nic.mac.octets.bytes) :
    Dhcp.V4.respond lease question = none := by
  obtain ⟨i, hi, rfl⟩ := List.getElem_of_mem hmem
  exact respond_eq_none hdistinct (List.getElem?_eq_getElem hi) hnic (by omega) hmac

end Provision

/-- In a run with a provision of candidates of distinct hardware addresses, cards, leases, saved
addresses and responders agree. -/
theorem isOneToOne_of_isRun {id : String} {rest : History Surroundings}
    {result : Option (Except Failure Unit)} (provision : Provision runner record)
    (hdistinct : (provision.candidates.map Candidate.mac).Nodup)
    (hrun : (runner.run id).attempt.IsRun
      (⟨.load id, .ok record⟩ :: (provision.history ++ rest)) result) :
    provision.IsOneToOne (⟨.load id, .ok record⟩ :: (provision.history ++ rest)) := by
  have hprovision : provision.history ⊆ ⟨.load id, .ok record⟩ :: (provision.history ++ rest) :=
    fun _ hmem ↦ List.mem_cons_of_mem _ (List.mem_append_left _ hmem)
  obtain ⟨handles, start, later, hwhole, hnetwork⟩ := Runner.exists_hasNetwork provision hrun
  obtain ⟨started, hstarted, hlast⟩ := hnetwork.exists_areStarted
  obtain ⟨links, hchosen⟩ := areChosen_of_isRun_discover provision.isDiscovered
  rw [← hwhole] at hrun hprovision ⊢
  exact
    { served := ⟨handles, started, hstarted, hlast.isInfix.trans (List.prefix_append _ _).isInfix⟩
      booted := fun _ _ _ ↦ nics_of_mem_supervise hnetwork hrun
      leased := ⟨links, hchosen.1, fun _ _ _ hnic hlease ↦
        Provision.takesOver hdistinct hchosen hprovision
          (fun _ _ hmem ↦ addresses_of_mem_save hnetwork hrun hmem) hnic hlease⟩
      redirected := fun _ _ hnic hle _ hmem _ hmac ↦
        Provision.respond_eq_none_of_le hdistinct hnic hle hmem hmac
      answered_once := fun _ _ _ _ _ hlease hother ↦
        Provision.eq_of_respond hdistinct hlease hother }

end Handover

/-! ## Two leases around a redirected interface -/

namespace Sample

/-- The record with a redirected interface. -/
def mixedRecord : Record :=
  { record with metadata := { record.metadata with
    annotations := .insert .empty "fcspawn.io/interface/eth1" "tc-redirect" } }

/-- The address of the last interface. -/
def lastAddress : Cidr := ⟨⟨0x0a000102⟩, 30, by decide⟩

def middleMac : Mac := ⟨⟨[2, 0, 0, 0, 0, 2], rfl⟩⟩

def lastMac : Mac := ⟨⟨[2, 0, 0, 0, 0, 3], rfl⟩⟩

/-- The interfaces of the container. -/
def mixedLinks : List Link :=
  [link, ⟨"eth1", some middleMac, false, []⟩, ⟨"eth2", some lastMac, false, [lastAddress]⟩]

/-- What is found among them. -/
def mixedCandidates : List Candidate :=
  [.leased "eth0" mac address none, .redirected "eth1" middleMac,
    .leased "eth2" lastMac lastAddress none]

theorem isRun_discoverUntil_mixed (deadline : Duration) (attempts : Nat) :
    (discoverUntil (runner.discoveryOptions mixedRecord) deadline (attempts + 1)).attempt.IsRun
      [⟨.list, .ok mixedLinks⟩, ⟨.gateway "eth0", .ok none⟩, ⟨.gateway "eth2", .ok none⟩]
      (some (.ok mixedCandidates)) := by
  rw [discoverUntil]
  iterate 3 refine .ask _ ?_
  exact .done _

theorem isRun_discover_mixed : (discover (runner.discoveryOptions mixedRecord)).attempt.IsRun
    ([⟨.now, ⟨0⟩⟩] ++ [⟨.list, .ok mixedLinks⟩, ⟨.gateway "eth0", .ok none⟩,
      ⟨.gateway "eth2", .ok none⟩])
    (some (.ok mixedCandidates)) := by
  have hattempts : maxAttempts = 4294967294 + 1 := by decide
  have hnow : Links.now.IsRun [⟨.now, ⟨0⟩⟩] (some ⟨0⟩) := .ask _ (.done _)
  unfold discover
  refine Task.isRun_liftM_bind hnow ?_
  rw [if_pos (by decide), hattempts]
  exact isRun_discoverUntil_mixed _ 4294967294

/-- What taking them over gives. -/
def mixedNetwork : NetworkSetup where
  leases := [⟨"eth0", "br_eth0", "vm_eth0", address, none, mac, [], []⟩,
    ⟨"eth2", "br_eth2", "vm_eth2", lastAddress, none, lastMac, [], []⟩]
  passthroughs := [⟨"eth1", "vm_eth1", middleMac⟩]

theorem exists_mixedProvision : ∃ provision : Provision runner mixedRecord,
    provision.candidates = mixedCandidates ∧ provision.network = mixedNetwork := by
  have hresolved : (readDns runner.settings.resolverPath).IsRun
      [⟨.readFile "/etc/resolv.conf", .error .notFound⟩,
        ⟨.readFile fallbackResolverPath, .error .notFound⟩] (some ⟨[], []⟩) := by
    iterate 2 refine .ask _ ?_
    exact .done _
  have hbytes : Octets 6 := ⟨[0, 0, 0, 0, 0, 2], rfl⟩
  have htakenOver : (takeOver ⟨[], []⟩ mixedCandidates).attempt.IsRun _
      (some (.ok mixedNetwork)) :=
    isRun_takeOver_ok_iff.2 (.cons (.leased rfl rfl hbytes)
      (.cons (.redirected rfl) (.cons (.leased rfl rfl hbytes) .nil)))
  exact ⟨⟨_, _, _, _, _, _, isRun_discover_mixed, hresolved, htakenOver⟩, rfl, rfl⟩

theorem exists_mixed_run (provision : Provision runner mixedRecord) : ∃ rest,
    (runner.run "abc").attempt.IsRun
      (⟨.load "abc", .ok mixedRecord⟩ :: (provision.history ++ rest))
      (some (endResult (.returned (.ok ())) (.error (.cause .noAddress)) (.ok ()))) := by
  obtain ⟨handles, started, hstarted⟩ := exists_areStarted
    (responders provision.network runner.settings.dhcpv6)
  have hnetwork : runner.HasNetwork "abc" mixedRecord provision.network handles _ :=
    .intro rfl provision.isRun hstarted
  have hstorage : (runner.provideStorage mixedRecord).attempt.IsRun storage
      (some (.ok "/dev/mapper/fcspawn-abc")) := isRun_provideStorage
  have hsaved := Runner.IsSaved.intro day (.intro hnetwork hstorage)
  have hdeactivate := Surroundings.isRun_onDevices_iff.2 ⟨_, rfl, isRun_deactivate⟩
  have hrun := hsaved.isRun_iff.2
    ⟨_, _, _, .intro (.returned (.ok ())) _ (.ok ()) hdeactivate, rfl⟩
  rw [List.append_assoc, List.append_assoc, List.append_assoc, List.append_assoc] at hrun
  exact ⟨_, hrun⟩

end Sample

/-- The cards of two leases stand before that of the redirected interface between them. -/
theorem isOneToOne_of_mixed_run : ∃ (provision : Provision Sample.runner Sample.mixedRecord)
    (history : History Surroundings) (result : Option (Except Failure Unit)),
    (Sample.runner.run "abc").attempt.IsRun history result ∧
    provision.network.guestNics = [⟨"vm_eth0", Sample.mac⟩, ⟨"vm_eth2", Sample.lastMac⟩,
      ⟨"vm_eth1", Sample.middleMac⟩] ∧
    provision.IsOneToOne history := by
  obtain ⟨provision, hcandidates, hnetwork⟩ := Sample.exists_mixedProvision
  obtain ⟨rest, hrun⟩ := Sample.exists_mixed_run provision
  have hdistinct : (provision.candidates.map Candidate.mac).Nodup := by
    rw [hcandidates]
    decide
  refine ⟨provision, _, _, hrun, ?_, isOneToOne_of_isRun provision hdistinct hrun⟩
  rw [hnetwork]
  rfl

end Run

end MicroVm
