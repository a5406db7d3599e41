import Mathlib.Data.List.Basic
import MicroVm.Network.Discovery
import MicroVm.Proofs.Program.Runs
import MicroVm.Proofs.Text.Occurrence

/-!
# What a reading of the interfaces offers

A reading judges each interface by itself: by its name, by what the annotations say of that name, by
what the interface has, and by what a lookup of its gateway says. An interface that is annotated to
be redirected needs a hardware address only, and its gateway is not looked up. Any other one needs
an address too, and a lookup that does not fail. The candidates are those of the interfaces one by
one, so that no interface has a say in what another one is offered as.
-/

namespace MicroVm

theorem lookup_eq_some_iff_mem {α β : Type} [BEq α] [LawfulBEq α] {entries : List (α × β)}
    (hkeys : entries.Pairwise fun a b ↦ a.1 ≠ b.1) {key : α} {value : β} :
    entries.lookup key = some value ↔ (key, value) ∈ entries := by
  rw [List.lookup_eq_some_iff]
  constructor
  · rintro ⟨before, after, rfl, -⟩
    exact List.mem_append_right before List.mem_cons_self
  · intro hmem
    obtain ⟨before, after, rfl⟩ := List.append_of_mem hmem
    have hbefore := (List.pairwise_append.1 hkeys).2.2
    refine ⟨before, after, rfl, fun entry hentry ↦ ?_⟩
    exact bne_iff_ne.2 (hbefore entry hentry _ List.mem_cons_self).symm

/-! ## What annotations ask for -/

open Network in
theorem Network.InterfaceMode.parse?_eq_some_iff {text : String} {mode : InterfaceMode} :
    InterfaceMode.parse? text = some mode ↔ text = mode.text := by
  unfold InterfaceMode.parse? InterfaceMode.text
  cases mode with
  | bridge => split <;> simp_all
  | redirect =>
    split
    · next hbridge => simp [hbridge]
    · next => split <;> simp_all

namespace Annotations

open Network

variable (annotations : Annotations) {interface : String} {mode : InterfaceMode}

/-- Whether the annotations ask for an interface to be redirected. -/
def Redirects (interface : String) : Prop :=
  ("fcspawn.io/interface/" ++ interface, "tc-redirect") ∈ annotations.entries

/-- What an entry says of an interface is in its key and in its value. -/
theorem mode_of_entry_eq_some_iff {key value : String} :
    (do
      let interface ← Text.dropBeginning? modeKey.toList key.toList
      let mode ← InterfaceMode.parse? value
      return (String.ofList interface, mode)) = some (interface, mode) ↔
        key = modeKey ++ interface ∧ value = mode.text := by
  constructor
  · intro hchosen
    obtain ⟨rest, hrest, hparsed⟩ := Option.bind_eq_some_iff.1 hchosen
    obtain ⟨found, hfound, hpair⟩ := Option.bind_eq_some_iff.1 hparsed
    cases hpair
    have hkey : key.toList = modeKey.toList ++ rest := Text.dropBeginning?_eq_some_iff.1 hrest
    refine ⟨?_, InterfaceMode.parse?_eq_some_iff.1 hfound⟩
    rw [← String.toList_inj, String.toList_append, String.toList_ofList, hkey]
  · rintro ⟨rfl, rfl⟩
    have hrest : Text.dropBeginning? modeKey.toList (modeKey ++ interface).toList =
        some interface.toList :=
      Text.dropBeginning?_eq_some_iff.2 String.toList_append
    have hparsed : InterfaceMode.parse? mode.text = some mode :=
      InterfaceMode.parse?_eq_some_iff.2 rfl
    rw [hrest, hparsed, Option.bind_eq_bind, Option.bind_some, Option.bind_eq_bind,
      Option.bind_some, String.ofList_toList]
    rfl

/-- A mode is chosen by an annotation whose key ends with the interface and whose value names the
mode. -/
theorem mem_interfaceModes_iff : (interface, mode) ∈ annotations.interfaceModes ↔
    (modeKey ++ interface, mode.text) ∈ annotations.entries := by
  unfold interfaceModes
  rw [List.mem_filterMap]
  constructor
  · rintro ⟨⟨key, value⟩, hentry, hchosen⟩
    obtain ⟨rfl, rfl⟩ := mode_of_entry_eq_some_iff.1 hchosen
    exact hentry
  · intro hentry
    exact ⟨_, hentry, mode_of_entry_eq_some_iff.2 ⟨rfl, rfl⟩⟩

/-- No interface has two modes. -/
theorem pairwise_interfaceModes : annotations.interfaceModes.Pairwise fun a b ↦ a.1 ≠ b.1 := by
  unfold interfaceModes
  refine annotations.ordered.filterMap _ ?_
  rintro ⟨key, value⟩ ⟨later, other⟩ hlt ⟨interface, mode⟩ hfirst ⟨_, _⟩ hsecond rfl
  obtain ⟨rfl, -⟩ := mode_of_entry_eq_some_iff.1 hfirst
  obtain ⟨rfl, -⟩ := mode_of_entry_eq_some_iff.1 hsecond
  exact String.lt_irrefl _ hlt

/-- An interface is redirected exactly when an annotation says so. -/
theorem modeOf_interfaceModes_eq_redirect_iff :
    annotations.interfaceModes.modeOf interface = .redirect ↔ annotations.Redirects interface := by
  have hlookup : annotations.interfaceModes.modeOf interface = .redirect ↔
      annotations.interfaceModes.lookup interface = some .redirect := by
    unfold InterfaceModes.modeOf
    cases annotations.interfaceModes.lookup interface with
    | none => exact iff_of_false nofun nofun
    | some mode => exact (Option.some_inj).symm
  rw [hlookup, lookup_eq_some_iff_mem annotations.pairwise_interfaceModes,
    mem_interfaceModes_iff]
  rfl

end Annotations

namespace Network

variable {mode : InterfaceMode} {modes : InterfaceModes} {link : Link} {links : List Link}
  {history : History Links}

/-! ## One interface -/

/-- An interface as a reading finds it, with what a lookup of its gateway says if there is one. -/
structure Sighting where
  link : Link
  gateway : Except Failure (Option Ipv4)

namespace Sighting

/-- What is asked to tell which candidate an interface is in a given mode. -/
def questions (mode : InterfaceMode) (sighting : Sighting) : History Links :=
  match sighting.link.mac, mode, sighting.link.addresses with
  | some _, .bridge, _ :: others =>
    (if others.isEmpty then []
      else [⟨.warn sighting.link.name "interface has several IPv4 addresses, taking the first",
        ()⟩]) ++ [⟨.gateway sighting.link.name, sighting.gateway⟩]
  | _, _, _ => []

/-- Which candidate an interface is in a given mode, or why it is none. -/
def verdict (mode : InterfaceMode) (sighting : Sighting) : Except Failure Candidate :=
  match sighting.link.mac, mode, sighting.link.addresses with
  | none, _, _ => .error (.cause .noHardwareAddress)
  | some mac, .redirect, _ => .ok (.redirected sighting.link.name mac)
  | some _, .bridge, [] => .error (.cause .noAddress)
  | some mac, .bridge, address :: _ =>
    (sighting.gateway.mapError (.within .readingRoute)).map
      (.leased sighting.link.name mac address)

/-- Whether an interface is passed over whatever it has. -/
def isPassedOver (sighting : Sighting) : Bool :=
  sighting.link.isLoopback || isOwnDevice sighting.link.name

/-- What the operator is told of an interface that is no candidate. -/
def complaint (interface : String) : Except Failure Candidate → History Links
  | .ok _ => []
  | .error failure => [⟨.warn interface ("skipping interface: " ++ failure.message), ()⟩]

/-- What is asked about an interface, and told of it. -/
def events (modes : InterfaceModes) (sighting : Sighting) : History Links :=
  if sighting.isPassedOver then []
  else
    let mode := modes.modeOf sighting.link.name
    sighting.questions mode ++ complaint sighting.link.name (sighting.verdict mode)

/-- The candidate that an interface is, if it is one. -/
def candidate? (modes : InterfaceModes) (sighting : Sighting) : Option Candidate :=
  if sighting.isPassedOver then none
  else (sighting.verdict (modes.modeOf sighting.link.name)).toOption

end Sighting

/-- A program that asks for one thing and ends. -/
theorem isRun_ask_done_iff {I : Interface} {α : Type} {request : I.Request}
    {value : I.Answer request → α} {history : History I} {result : Option α} :
    (Program.ask request fun answer ↦ .done (value answer)).IsRun history result ↔
      ∃ answer, history = [⟨request, answer⟩] ∧ result = some (value answer) := by
  rw [Program.isRun_ask_iff]
  constructor
  · rintro ⟨answer, rest, rfl, hrest⟩
    obtain ⟨rfl, rfl⟩ := Program.isRun_done_iff.1 hrest
    exact ⟨answer, rfl, rfl⟩
  · rintro ⟨answer, rfl, rfl⟩
    exact ⟨answer, [], rfl, .done _⟩

/-- An interface with an address is one lookup away from being a candidate. -/
theorem attempt_leased (mac : Mac) (address : Cidr) :
    (do
      let gateway ← Task.within .readingRoute (Links.gateway link.name)
      return .leased link.name mac address gateway : Task Links Candidate).attempt =
      .ask (.gateway link.name) fun gateway ↦ .done ((gateway.mapError (.within .readingRoute)).map
        (.leased link.name mac address)) := by
  rw [Task.attempt_bind]
  refine congrArg (Program.ask _) (funext fun gateway ↦ ?_)
  cases gateway <;> rfl

theorem isRun_classify_iff {result : Option (Except Failure Candidate)} :
    (classify mode link).attempt.IsRun history result ↔
      ∃ gateway, history = Sighting.questions mode ⟨link, gateway⟩ ∧
        result = some (Sighting.verdict mode ⟨link, gateway⟩) := by
  obtain ⟨name, mac?, isLoopback, addresses⟩ := link
  match mac?, mode, addresses with
  | none, _, _ => exact Program.isRun_done_iff.trans (exists_const _).symm
  | some mac, .redirect, _ => exact Program.isRun_done_iff.trans (exists_const _).symm
  | some mac, .bridge, [] => exact Program.isRun_done_iff.trans (exists_const _).symm
  | some mac, .bridge, [address] =>
    have hattempt : (classify .bridge ⟨name, some mac, isLoopback, [address]⟩).attempt = _ :=
      attempt_leased mac address
    rw [hattempt]
    exact isRun_ask_done_iff
  | some mac, .bridge, address :: other :: others =>
    -- the operator is told that the other addresses are not used
    have hattempt : (classify .bridge
        ⟨name, some mac, isLoopback, address :: other :: others⟩).attempt =
          .ask (.warn name "interface has several IPv4 addresses, taking the first") fun _ ↦ _ :=
      congrArg (Program.ask _) (funext fun _ ↦ attempt_leased mac address)
    rw [hattempt]
    refine Program.isRun_ask_iff.trans ?_
    constructor
    · rintro ⟨_, rest, rfl, hrest⟩
      obtain ⟨gateway, rfl, rfl⟩ := isRun_ask_done_iff.1 hrest
      exact ⟨gateway, rfl, rfl⟩
    · rintro ⟨gateway, rfl, rfl⟩
      exact ⟨(), _, rfl, isRun_ask_done_iff.2 ⟨gateway, rfl, rfl⟩⟩

/-! ## A whole reading -/

/-- When an interface has been judged, the operator hears why it is no candidate, and the others
come next. -/
theorem isRun_judged_iff {verdict : Except Failure Candidate} {result : Option (List Candidate)} :
    (match verdict with
      | .ok candidate => (classifyAll modes links).bind fun others ↦ .done (candidate :: others)
      | .error failure =>
        (Links.warn link.name ("skipping interface: " ++ failure.message)).bind fun _ ↦
          classifyAll modes links : Program Links (List Candidate)).IsRun history result ↔
      ∃ rest found, history = Sighting.complaint link.name verdict ++ rest ∧
        (classifyAll modes links).IsRun rest found ∧
        result = found.map (verdict.toOption.toList ++ ·) := by
  cases verdict with
  | ok candidate =>
    refine Program.isRun_map_iff.trans ?_
    constructor
    · rintro ⟨found, hfound, rfl⟩
      exact ⟨history, found, rfl, hfound, rfl⟩
    · rintro ⟨_, found, rfl, hfound, rfl⟩
      exact ⟨found, hfound, rfl⟩
  | error failure =>
    refine Program.isRun_ask_iff.trans ?_
    constructor
    · rintro ⟨⟨⟩, rest, rfl, hrest⟩
      exact ⟨rest, result, rfl, hrest, Option.map_id'.symm⟩
    · rintro ⟨rest, found, rfl, hrest, hresult⟩
      obtain rfl : result = found := hresult.trans Option.map_id'
      exact ⟨(), rest, rfl, hrest⟩

/-- The first interface is judged by itself, and the others come after it. -/
theorem isRun_classifyAll_cons_iff {result : Option (List Candidate)} :
    (classifyAll modes (link :: links)).IsRun history result ↔
      ∃ gateway rest found, history = Sighting.events modes ⟨link, gateway⟩ ++ rest ∧
        (classifyAll modes links).IsRun rest found ∧
        result = found.map ((Sighting.candidate? modes ⟨link, gateway⟩).toList ++ ·) := by
  rw [classifyAll]
  unfold Sighting.events Sighting.candidate? Sighting.isPassedOver
  split
  next hpassed =>
    constructor
    · intro hrun
      exact ⟨.ok none, history, result, rfl, hrun, Option.map_id'.symm⟩
    · rintro ⟨_, _, found, rfl, hrun, hresult⟩
      obtain rfl : result = found := hresult.trans Option.map_id'
      exact hrun
  next hpassed =>
    refine Program.isRun_bind_iff.trans ?_
    constructor
    · rintro (⟨verdict, _, after, rfl, hclassified, hafter⟩ | ⟨hcrash, -⟩)
      · obtain ⟨gateway, rfl, hverdict⟩ := isRun_classify_iff.1 hclassified
        obtain rfl := Option.some.inj hverdict
        obtain ⟨rest, found, rfl, hrest, rfl⟩ := isRun_judged_iff.1 hafter
        exact ⟨gateway, rest, found, (List.append_assoc _ _ _).symm, hrest, rfl⟩
      · obtain ⟨_, -, hnone⟩ := isRun_classify_iff.1 hcrash
        cases hnone
    · rintro ⟨gateway, rest, found, rfl, hrest, rfl⟩
      exact .inl ⟨_, _, _, List.append_assoc _ _ _, isRun_classify_iff.2 ⟨gateway, rfl, rfl⟩,
        isRun_judged_iff.2 ⟨rest, found, rfl, hrest, rfl⟩⟩

theorem filterMap_cons_eq_append {α β : Type} (choose : α → Option β) (first : α)
    (rest : List α) :
    (first :: rest).filterMap choose = (choose first).toList ++ rest.filterMap choose := by
  rw [List.filterMap_cons]
  cases choose first <;> rfl

/-- The interfaces are judged one after the other. -/
theorem isRun_classifyAll_iff {result : Option (List Candidate)} :
    (classifyAll modes links).IsRun history result ↔
      ∃ sightings : List Sighting, sightings.map Sighting.link = links ∧
        history = sightings.flatMap (Sighting.events modes) ∧
        result = some (sightings.filterMap (Sighting.candidate? modes)) := by
  induction links generalizing history result with
  | nil =>
    refine Program.isRun_done_iff.trans ?_
    constructor
    · rintro ⟨rfl, rfl⟩
      exact ⟨[], rfl, rfl, rfl⟩
    · rintro ⟨sightings, hlinks, rfl, rfl⟩
      obtain rfl := List.map_eq_nil_iff.1 hlinks
      exact ⟨rfl, rfl⟩
  | cons link links ih =>
    rw [isRun_classifyAll_cons_iff]
    constructor
    · rintro ⟨gateway, rest, found, rfl, hrest, rfl⟩
      obtain ⟨sightings, rfl, rfl, rfl⟩ := ih.1 hrest
      refine ⟨⟨link, gateway⟩ :: sightings, rfl, rfl, ?_⟩
      rw [filterMap_cons_eq_append]
      rfl
    · rintro ⟨sightings, hlinks, rfl, rfl⟩
      obtain ⟨sighting, others, rfl, rfl, rfl⟩ := List.map_eq_cons_iff.1 hlinks
      rw [filterMap_cons_eq_append]
      exact ⟨sighting.gateway, _, _, rfl, ih.2 ⟨others, rfl, rfl, rfl⟩, rfl⟩

/-- The runs of a reading. The answer to the listing is the interfaces or a failure. -/
inductive IsReading (modes : InterfaceModes) :
    History Links → Option (Except Failure (List Candidate)) → Prop
  | failed (failure : Failure) : IsReading modes [⟨.list, .error failure⟩]
      (some (.error (.within .listingInterfaces failure)))
  | listed (sightings : List Sighting) : IsReading modes
      (⟨.list, .ok (sightings.map Sighting.link)⟩ :: sightings.flatMap (Sighting.events modes))
      (some (.ok (sightings.filterMap (Sighting.candidate? modes))))

theorem isRun_listing_iff {result : Option (Except Failure (List Link))} :
    (Task.within .listingInterfaces Links.list).attempt.IsRun history result ↔
      ∃ answer : Except Failure (List Link), history = [⟨.list, answer⟩] ∧
        result = some (answer.mapError (.within .listingInterfaces)) := by
  rw [Task.isRun_within_iff]
  constructor
  · rintro ⟨inner, hlist, rfl⟩
    obtain ⟨answer, rfl, rfl⟩ := Program.isRun_perform_iff.1 hlist
    exact ⟨answer, rfl, rfl⟩
  · rintro ⟨answer, rfl, rfl⟩
    exact ⟨some answer, Program.isRun_perform_iff.2 ⟨answer, rfl, rfl⟩, rfl⟩

theorem isRun_survey_iff {result : Option (Except Failure (List Candidate))} :
    (survey modes).attempt.IsRun history result ↔ IsReading modes history result := by
  rw [survey, Task.attempt_bind, Program.isRun_bind_iff]
  constructor
  · rintro (⟨_, before, after, rfl, hlist, hrest⟩ | ⟨hcrash, -⟩)
    · obtain ⟨answer, rfl, hanswer⟩ := isRun_listing_iff.1 hlist
      obtain rfl := Option.some.inj hanswer
      cases answer with
      | error failure =>
        obtain ⟨rfl, rfl⟩ := Program.isRun_done_iff.1 hrest
        exact .failed failure
      | ok links =>
        obtain ⟨found, hfound, rfl⟩ := Program.isRun_map_iff.1 hrest
        obtain ⟨sightings, rfl, rfl, rfl⟩ := isRun_classifyAll_iff.1 hfound
        exact .listed sightings
    · obtain ⟨_, -, hnone⟩ := isRun_listing_iff.1 hcrash
      cases hnone
  · intro hreading
    cases hreading with
    | failed failure =>
      exact .inl ⟨_, _, [], rfl, isRun_listing_iff.2 ⟨.error failure, rfl, rfl⟩, .done _⟩
    | listed sightings =>
      exact .inl ⟨_, _, _, rfl, isRun_listing_iff.2 ⟨.ok (sightings.map Sighting.link), rfl, rfl⟩,
        Program.isRun_map_iff.2 ⟨_, isRun_classifyAll_iff.2 ⟨sightings, rfl, rfl, rfl⟩, rfl⟩⟩

/-! ## What interfaces are offered as -/

/-- Whether an interface is the container's own to hand over. -/
structure Link.IsForeign (link : Link) : Prop where
  notLoopback : link.isLoopback = false
  notTap : ¬ "vm_".toList <+: link.name.toList
  notBridge : ¬ "br_".toList <+: link.name.toList

/-- What an interface is offered as by the annotations and the lookup of its gateway. -/
inductive Sighting.IsOffered (annotations : Annotations) (sighting : Sighting) : Candidate → Prop
  | redirected {mac : Mac} (foreign : sighting.link.IsForeign) (hmac : sighting.link.mac = some mac)
      (annotated : annotations.Redirects sighting.link.name) :
      IsOffered annotations sighting (.redirected sighting.link.name mac)
  | leased {mac : Mac} {address : Cidr} {gateway : Option Ipv4}
      (foreign : sighting.link.IsForeign) (hmac : sighting.link.mac = some mac)
      (plain : ¬ annotations.Redirects sighting.link.name)
      (haddress : sighting.link.addresses.head? = some address)
      (hgateway : sighting.gateway = .ok gateway) :
      IsOffered annotations sighting (.leased sighting.link.name mac address gateway)

theorem isOwnDevice_eq_false_iff {name : String} :
    isOwnDevice name = false ↔ ¬ "vm_".toList <+: name.toList ∧ ¬ "br_".toList <+: name.toList := by
  rw [isOwnDevice, Bool.or_eq_false_iff, ← Bool.not_eq_true, ← Bool.not_eq_true,
    List.isPrefixOf_iff_prefix, List.isPrefixOf_iff_prefix]

/-- The interfaces that are looked at are those of others. -/
theorem Sighting.isPassedOver_eq_false_iff {sighting : Sighting} :
    sighting.isPassedOver = false ↔ sighting.link.IsForeign := by
  rw [isPassedOver, Bool.or_eq_false_iff, isOwnDevice_eq_false_iff]
  constructor
  · rintro ⟨hloopback, htap, hbridge⟩
    exact ⟨hloopback, htap, hbridge⟩
  · rintro ⟨hloopback, htap, hbridge⟩
    exact ⟨hloopback, htap, hbridge⟩

/-- To be redirected an interface needs a hardware address. -/
theorem Sighting.verdict_redirect_eq_ok_iff {sighting : Sighting} {candidate : Candidate} :
    sighting.verdict .redirect = .ok candidate ↔
      ∃ mac, sighting.link.mac = some mac ∧ candidate = .redirected sighting.link.name mac := by
  unfold verdict
  cases sighting.link.mac with
  | none => simp
  | some mac => simp [eq_comm]

/-- To have its address taken over an interface also needs an address and a lookup that ends. -/
theorem Sighting.verdict_bridge_eq_ok_iff {sighting : Sighting} {candidate : Candidate} :
    sighting.verdict .bridge = .ok candidate ↔
      ∃ mac address gateway, sighting.link.mac = some mac ∧
        sighting.link.addresses.head? = some address ∧ sighting.gateway = .ok gateway ∧
        candidate = .leased sighting.link.name mac address gateway := by
  unfold verdict
  cases sighting.link.mac with
  | none => simp
  | some mac =>
    cases sighting.link.addresses with
    | nil => simp
    | cons address others =>
      cases sighting.gateway with
      | error failure => simp [Except.mapError, Except.map]
      | ok gateway => simp [Except.mapError, Except.map, eq_comm]

/-- A candidate is an interface that is not passed over and has the right to be one. -/
theorem Sighting.candidate?_eq_some_iff_verdict {sighting : Sighting} {candidate : Candidate} :
    sighting.candidate? modes = some candidate ↔ sighting.link.IsForeign ∧
      sighting.verdict (modes.modeOf sighting.link.name) = .ok candidate := by
  rw [candidate?, ← isPassedOver_eq_false_iff]
  cases sighting.isPassedOver with
  | true => exact iff_of_false nofun nofun
  | false =>
    refine Iff.trans ?_ (and_iff_right rfl).symm
    cases sighting.verdict (modes.modeOf sighting.link.name) with
    | error failure => exact iff_of_false nofun nofun
    | ok found => simp [Except.toOption]

theorem Sighting.candidate?_eq_some_iff {annotations : Annotations} {sighting : Sighting}
    {candidate : Candidate} :
    sighting.candidate? annotations.interfaceModes = some candidate ↔
      sighting.IsOffered annotations candidate := by
  rw [candidate?_eq_some_iff_verdict]
  cases hmode : annotations.interfaceModes.modeOf sighting.link.name with
  | redirect =>
    have hannotated := annotations.modeOf_interfaceModes_eq_redirect_iff.1 hmode
    rw [verdict_redirect_eq_ok_iff]
    constructor
    · rintro ⟨hforeign, mac, hmac, rfl⟩
      exact .redirected hforeign hmac hannotated
    · intro hoffered
      cases hoffered with
      | redirected hforeign hmac => exact ⟨hforeign, _, hmac, rfl⟩
      | leased _ _ hplain => exact absurd hannotated hplain
  | bridge =>
    have hplain : ¬ annotations.Redirects sighting.link.name := by
      rw [← annotations.modeOf_interfaceModes_eq_redirect_iff, hmode]
      exact nofun
    rw [verdict_bridge_eq_ok_iff]
    constructor
    · rintro ⟨hforeign, mac, address, gateway, hmac, haddress, hgateway, rfl⟩
      exact .leased hforeign hmac hplain haddress hgateway
    · intro hoffered
      cases hoffered with
      | redirected _ _ hannotated => exact absurd hannotated hplain
      | leased hforeign hmac _ haddress hgateway =>
        exact ⟨hforeign, _, _, _, hmac, haddress, hgateway, rfl⟩

theorem Sighting.eq_of_mem_questions {sighting : Sighting} {event : Event Links}
    (hevent : event ∈ sighting.questions mode) : mode = .bridge ∧
      (event = ⟨.gateway sighting.link.name, sighting.gateway⟩ ∨
        ∃ text, event = ⟨.warn sighting.link.name text, ()⟩) := by
  unfold questions at hevent
  split at hevent
  next =>
    refine ⟨rfl, ?_⟩
    obtain hwarned | hasked := List.mem_append.1 hevent
    · split at hwarned
      next => cases hwarned
      next => exact .inr ⟨_, List.mem_singleton.1 hwarned⟩
    · exact .inl (List.mem_singleton.1 hasked)
  next => cases hevent

/-- Of an interface no more is asked than its gateway, and that only if it is not to be redirected.
All else is something that the operator is told. -/
theorem Sighting.eq_of_mem_events {sighting : Sighting} {event : Event Links}
    (hevent : event ∈ sighting.events modes) :
    event = ⟨.gateway sighting.link.name, sighting.gateway⟩ ∧
        modes.modeOf sighting.link.name = .bridge ∨
      ∃ text, event = ⟨.warn sighting.link.name text, ()⟩ := by
  unfold events at hevent
  split at hevent
  next => cases hevent
  next =>
    obtain hquestion | hcomplaint := List.mem_append.1 hevent
    · obtain ⟨hmode, rfl | hwarned⟩ := eq_of_mem_questions hquestion
      · exact .inl ⟨rfl, hmode⟩
      · exact .inr hwarned
    · unfold complaint at hcomplaint
      split at hcomplaint
      next => cases hcomplaint
      next => exact .inr ⟨_, List.mem_singleton.1 hcomplaint⟩

end Network

end MicroVm
