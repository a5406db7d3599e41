import Mathlib.Data.List.Induction
import Mathlib.Data.List.Sort
import MicroVm.Dhcp.V4.Responder
import MicroVm.Proofs.Dhcp.Options

/-!
# Questions and their answers

What a responder answers, and with what, is said here by the fields and options of the two packets:
a question comes from the client of the lease and its first kind option is a discovery or a
request; the answer takes over what identifies the exchange and tells the client what it asks for
and the lease has, in the order in which the client asks for it first.

The packets that are answered are exactly the questions, and each is answered with the one packet
that is its answer. An answer is no question, to any responder.
-/

namespace MicroVm.Dhcp.V4

open MicroVm.Network

theorem Packet.option?_eq_some_iff {packet : Packet} {code : UInt8} {value : List UInt8} :
    packet.option? code = some value ↔ IsFirst packet.options code value :=
  find?_code_eq_some_iff

/-! ## What a lease tells -/

/-- The options that a lease has for a client: its mask, its gateway if there is one, and its name
servers unless there are none. -/
inductive Offers (lease : Lease) : Entry → Prop
  | mask : Offers lease (1, lease.address.mask.bytes)
  | router {gateway : Ipv4} (hgateway : lease.gateway = some gateway) :
      Offers lease (3, gateway.bytes)
  | servers (hservers : lease.dns ≠ []) : Offers lease (6, lease.dns.flatMap Ipv4.bytes)

theorem offers_iff {lease : Lease} {entry : Entry} :
    Offers lease entry ↔ optionValue? lease entry.1 = some entry.2 := by
  constructor
  · intro hoffers
    cases hoffers with
    | mask => rfl
    | router hgateway => simp [optionValue?, Code.subnetMask, Code.router, hgateway]
    | servers hservers =>
      simp [optionValue?, Code.subnetMask, Code.router, Code.dnsServers, hservers]
  · obtain ⟨code, value⟩ := entry
    intro hvalue
    unfold optionValue? at hvalue
    split at hvalue
    · rename_i hcode
      cases hvalue
      subst hcode
      exact .mask
    · split at hvalue
      · rename_i hcode
        obtain ⟨gateway, hgateway, rfl⟩ := Option.map_eq_some_iff.1 hvalue
        subst hcode
        exact .router hgateway
      · split at hvalue
        · rename_i hcode
          split at hvalue
          · cases hvalue
          · rename_i hservers
            cases hvalue
            subst hcode
            exact .servers (by simpa using hservers)
        · cases hvalue

/-- The offers that a client asks for: each once, in the order in which their codes first stand
among those that are asked for. -/
structure IsSelection (lease : Lease) (asked : List UInt8) (chosen : List Entry) : Prop where
  mem_iff : ∀ entry, entry ∈ chosen ↔ entry.1 ∈ asked ∧ Offers lease entry
  inOrder : chosen.Pairwise fun earlier later ↦ asked.idxOf earlier.1 < asked.idxOf later.1

namespace IsSelection

variable {lease : Lease} {asked : List UInt8} {chosen : List Entry}

/-- There is one selection only. -/
theorem unique {others : List Entry} (hchosen : IsSelection lease asked chosen)
    (hothers : IsSelection lease asked others) : chosen = others := by
  -- Two lists with the same members that are sorted by one strict order are equal.
  let earlier (entry other : Entry) : Prop := asked.idxOf entry.1 < asked.idxOf other.1
  have : Std.Irrefl earlier := ⟨fun _ ↦ lt_irrefl _⟩
  have : Std.Antisymm earlier := ⟨fun _ _ hlt hgt ↦ absurd hlt hgt.asymm⟩
  refine List.Pairwise.eq_of_mem_iff (r := earlier) hchosen.inOrder hothers.inOrder fun entry ↦ ?_
  rw [hchosen.mem_iff, hothers.mem_iff]

theorem nodup_codes (hchosen : IsSelection lease asked chosen) :
    (chosen.map Prod.fst).Nodup := by
  refine List.pairwise_map.2 (hchosen.inOrder.imp ?_)
  intro _ _ hlt hsame
  exact lt_irrefl _ (hsame ▸ hlt)

/-- A code that adds nothing may be asked for once more. -/
theorem append_code (hchosen : IsSelection lease asked chosen) {code : UInt8}
    (hcode : ∀ entry, entry.1 = code → Offers lease entry → code ∈ asked) :
    IsSelection lease (asked ++ [code]) chosen where
  mem_iff entry := by
    rw [hchosen.mem_iff, List.mem_append, List.mem_singleton]
    constructor
    · rintro ⟨hasked, hoffers⟩
      exact ⟨.inl hasked, hoffers⟩
    · rintro ⟨hasked | hsame, hoffers⟩
      · exact ⟨hasked, hoffers⟩
      · exact ⟨hsame ▸ hcode entry hsame hoffers, hoffers⟩
  inOrder := by
    refine hchosen.inOrder.imp_of_mem fun {earlier later} hearlier hlater hlt ↦ ?_
    rwa [List.idxOf_append_of_mem ((hchosen.mem_iff _).1 hearlier).1,
      List.idxOf_append_of_mem ((hchosen.mem_iff _).1 hlater).1]

/-- An offer whose code is asked for first. -/
theorem append_offer (hchosen : IsSelection lease asked chosen) {code : UInt8} {value : List UInt8}
    (hnew : code ∉ asked) (hoffers : Offers lease (code, value)) :
    IsSelection lease (asked ++ [code]) (chosen ++ [(code, value)]) where
  mem_iff entry := by
    rw [List.mem_append, hchosen.mem_iff, List.mem_append, List.mem_singleton, List.mem_singleton]
    constructor
    · rintro (⟨hasked, hentry⟩ | rfl)
      · exact ⟨.inl hasked, hentry⟩
      · exact ⟨.inr rfl, hoffers⟩
    · rintro ⟨hasked | hsame, hentry⟩
      · exact .inl ⟨hasked, hentry⟩
      · right
        have hvalue := offers_iff.1 hentry
        rw [hsame, offers_iff.1 hoffers] at hvalue
        exact Prod.ext hsame (Option.some.inj hvalue).symm
  inOrder := by
    have hplace : (asked ++ [code]).idxOf code = asked.length := by
      simp [List.idxOf_append_of_notMem hnew]
    have hmem {entry : Entry} (hentry : entry ∈ chosen) : entry.1 ∈ asked :=
      ((hchosen.mem_iff entry).1 hentry).1
    refine List.pairwise_append.2 ⟨?_, List.pairwise_singleton _ _, ?_⟩
    · refine hchosen.inOrder.imp_of_mem fun hearlier hlater hlt ↦ ?_
      rwa [List.idxOf_append_of_mem (hmem hearlier), List.idxOf_append_of_mem (hmem hlater)]
    · intro earlier hearlier later hlater
      rw [List.mem_singleton.1 hlater, hplace, List.idxOf_append_of_mem (hmem hearlier)]
      exact List.idxOf_lt_length_of_mem (hmem hearlier)

/-- One more code that is asked for. -/
theorem add (hchosen : IsSelection lease asked chosen) (code : UInt8) :
    IsSelection lease (asked ++ [code]) (addOption lease chosen code) := by
  unfold addOption
  split
  · rename_i hthere
    obtain ⟨entry, hmem, hsame⟩ := List.any_eq_true.1 hthere
    have hasked := ((hchosen.mem_iff entry).1 hmem).1
    exact hchosen.append_code fun _ _ _ ↦ beq_iff_eq.1 hsame ▸ hasked
  · rename_i hnone
    cases hvalue : optionValue? lease code with
    | none =>
      refine hchosen.append_code fun entry hsame hoffers ↦ ?_
      rw [offers_iff, hsame, hvalue] at hoffers
      cases hoffers
    | some value =>
      have hoffers : Offers lease (code, value) := offers_iff.2 hvalue
      refine hchosen.append_offer (fun hasked ↦ hnone ?_) hoffers
      exact List.any_eq_true.2 ⟨_, (hchosen.mem_iff _).2 ⟨hasked, hoffers⟩, beq_self_eq_true code⟩

end IsSelection

/-- The selection that the codes asked for give, one after another. -/
theorem isSelection_foldl (lease : Lease) (asked : List UInt8) :
    IsSelection lease asked (asked.foldl (addOption lease) []) := by
  induction asked using List.reverseRecOn with
  | nil => exact ⟨by simp, .nil⟩
  | append_singleton asked code ih =>
    rw [List.foldl_append]
    exact ih.add code

/-! ## What a client asks for -/

/-- The codes that a client asks for: those of its request list, unless there is none or an empty
one. -/
inductive AsksFor (question : Packet) : List UInt8 → Prop
  | listed {codes : List UInt8} (hcodes : IsFirst question.options 55 codes)
      (hne : codes ≠ []) : AsksFor question codes
  | anything (hnone : ∀ codes, IsFirst question.options 55 codes → codes = []) :
      AsksFor question [1, 3, 6]

theorem asksFor_iff {question : Packet} {asked : List UInt8} :
    AsksFor question asked ↔
      asked = if question.requestedCodes.isEmpty then defaultCodes
        else question.requestedCodes := by
  have hfirst {codes : List UInt8} : IsFirst question.options 55 codes ↔
      question.option? Code.parameterRequest = some codes := Packet.option?_eq_some_iff.symm
  unfold Packet.requestedCodes
  cases hlist : question.option? Code.parameterRequest with
  | none =>
    constructor
    · intro hasks
      cases hasks with
      | listed hcodes hne => simp [hfirst, hlist] at hcodes
      | anything hnone => rfl
    · rintro rfl
      exact .anything fun codes hcodes ↦ by simp [hfirst, hlist] at hcodes
  | some codes =>
    constructor
    · intro hasks
      cases hasks with
      | listed hcodes hne =>
        obtain rfl := Option.some.inj (hlist.symm.trans (hfirst.1 hcodes))
        simp [hne]
      | anything hnone =>
        obtain rfl := hnone codes (hfirst.2 hlist)
        rfl
    · rintro rfl
      by_cases hne : codes = []
      · subst hne
        refine .anything fun others hothers ↦ ?_
        exact Option.some.inj ((hfirst.1 hothers).symm.trans hlist)
      · simpa [hne] using AsksFor.listed (hfirst.2 hlist) hne

/-- A client asks for one list of codes only. -/
theorem AsksFor.unique {question : Packet} {asked others : List UInt8}
    (hasked : AsksFor question asked) (hothers : AsksFor question others) : asked = others :=
  (asksFor_iff.1 hasked).trans (asksFor_iff.1 hothers).symm

/-- Options that a lease has no value for stay in front. -/
theorem addOption_append {lease : Lease} {heads : List Entry}
    (hheads : ∀ entry ∈ heads, optionValue? lease entry.1 = none) (options : List Entry)
    (code : UInt8) :
    addOption lease (heads ++ options) code = heads ++ addOption lease options code := by
  unfold addOption
  cases hvalue : optionValue? lease code with
  | none => simp
  | some value =>
    -- A code that the lease has a value for is none of those in front.
    have hnew : ¬ heads.any fun entry ↦ entry.1 == code := by
      intro hany
      obtain ⟨entry, hmem, hsame⟩ := List.any_eq_true.1 hany
      have hnone := hheads entry hmem
      rw [beq_iff_eq.1 hsame, hvalue] at hnone
      cases hnone
    simp only [List.any_append, hnew, Bool.false_or]
    split <;> simp

theorem foldl_addOption_append {lease : Lease} {heads : List Entry}
    (hheads : ∀ entry ∈ heads, optionValue? lease entry.1 = none) (asked : List UInt8)
    (options : List Entry) :
    asked.foldl (addOption lease) (heads ++ options) =
      heads ++ asked.foldl (addOption lease) options := by
  induction asked generalizing options with
  | nil => rfl
  | cons code asked ih => rw [List.foldl_cons, List.foldl_cons, addOption_append hheads, ih]

/-! ## Questions -/

theorem Kind.ofCode?_eq_some_iff {code : UInt8} {kind : Kind} :
    Kind.ofCode? code = some kind ↔ code = kind.code :=
  find?_number_eq_some_iff fun kind ↦ by cases kind <;> rfl

namespace Packet

variable {packet : Packet}

theorem kind?_eq_some_iff {kind : Kind} :
    packet.kind? = some kind ↔ IsFirst packet.options 53 [kind.code] := by
  rw [← option?_eq_some_iff]
  unfold kind?
  constructor
  · intro hkind
    split at hkind
    · rename_i code hoption
      rw [← Kind.ofCode?_eq_some_iff.1 hkind]
      exact hoption
    · cases hkind
  · intro hoption
    simp only [Code.messageKind, hoption]
    exact Kind.ofCode?_eq_some_iff.2 rfl

/-- A packet names an Ethernet client by kind, length and the first six bytes of its hardware
address. -/
theorem clientMac?_eq_some_iff {mac : Mac} :
    packet.clientMac? = some mac ↔ packet.hardwareKind = 1 ∧ packet.hardwareLength = 6 ∧
      packet.hardwareAddress.bytes.take 6 = mac.octets.bytes := by
  have hlength : (packet.hardwareAddress.bytes.take 6).length = 6 := by
    rw [List.length_take, packet.hardwareAddress.length_bytes]
    rfl
  unfold clientMac?
  rw [Option.ite_none_right_eq_some, and_assoc, Octets.ofBytes?, dif_pos hlength,
    Option.map_some, Option.some.injEq, Mac.ext_iff, Octets.ext_iff]

end Packet

/-- Whether a packet is a question of the given kind from the client of a lease. -/
structure IsQuestion (lease : Lease) (question : Packet) (kind : UInt8) : Prop where
  op : question.op = 1
  kind : IsFirst question.options 53 [kind]
  hardwareKind : question.hardwareKind = 1
  hardwareLength : question.hardwareLength = 6
  mac : question.hardwareAddress.bytes.take 6 = lease.mac.octets.bytes

/-- The two kinds that are answered, with the kinds of their answers. -/
theorem replyKind?_eq_some_iff {kind answer : Kind} :
    replyKind? kind = some answer ↔
      (kind = .discover ∧ answer = .offer) ∨ (kind = .request ∧ answer = .ack) := by
  cases kind <;> cases answer <;> simp [replyKind?]

theorem isQuestion_iff {lease : Lease} {question : Packet} {kind : Kind} :
    IsQuestion lease question kind.code ↔ question.op = opRequest ∧ question.kind? = some kind ∧
      question.clientMac? = some lease.mac := by
  rw [Packet.kind?_eq_some_iff, Packet.clientMac?_eq_some_iff]
  constructor
  · rintro ⟨hop, hkind, hhardware, hlength, hmac⟩
    exact ⟨hop, hkind, hhardware, hlength, hmac⟩
  · rintro ⟨hop, hkind, hhardware, hlength, hmac⟩
    exact ⟨hop, hkind, hhardware, hlength, hmac⟩

/-! ## Answers -/

/-- Whether a packet is the answer of the given kind to a question. -/
structure IsAnswer (lease : Lease) (question reply : Packet) (kind : UInt8) : Prop where
  op : reply.op = 2
  hardwareKind : reply.hardwareKind = question.hardwareKind
  hardwareLength : reply.hardwareLength = question.hardwareLength
  hops : reply.hops = 0
  transaction : reply.transaction = question.transaction
  seconds : reply.seconds = 0
  flags : reply.flags = question.flags
  clientAddress : reply.clientAddress = question.clientAddress
  yourAddress : reply.yourAddress = lease.address.address
  serverAddress : reply.serverAddress = ⟨0⟩
  relayAddress : reply.relayAddress = question.relayAddress
  hardwareAddress : reply.hardwareAddress = question.hardwareAddress
  options : ∃ asked chosen, AsksFor question asked ∧ IsSelection lease asked chosen ∧
    reply.options =
      [(53, [kind]), (54, (serverId lease).bytes), (51, [255, 255, 255, 255])] ++ chosen

theorem isAnswer_replyTo (lease : Lease) (question : Packet) (kind : Kind) :
    IsAnswer lease question (replyTo lease question kind) kind.code where
  op := rfl
  hardwareKind := rfl
  hardwareLength := rfl
  hops := rfl
  transaction := rfl
  seconds := rfl
  flags := rfl
  clientAddress := rfl
  yourAddress := rfl
  serverAddress := rfl
  relayAddress := rfl
  hardwareAddress := rfl
  options := by
    refine ⟨_, _, asksFor_iff.2 rfl, isSelection_foldl lease _, ?_⟩
    have hheads : ∀ entry ∈ [((53 : UInt8), [kind.code]), (54, (serverId lease).bytes),
        (51, [255, 255, 255, 255])], optionValue? lease entry.1 = none := by
      intro entry hentry
      simp only [List.mem_cons, List.not_mem_nil, or_false] at hentry
      obtain rfl | rfl | rfl := hentry <;> rfl
    rw [← foldl_addOption_append hheads, List.append_nil]
    rfl

namespace IsAnswer

variable {lease : Lease} {question reply : Packet} {kind : UInt8}

/-- There is one answer of a kind only. -/
theorem unique {other : Packet} (hreply : IsAnswer lease question reply kind)
    (hother : IsAnswer lease question other kind) : reply = other := by
  obtain ⟨asked, chosen, hasks, hchosen, hoptions⟩ := hreply.options
  obtain ⟨asked', chosen', hasks', hchosen', hoptions'⟩ := hother.options
  obtain rfl := hasks.unique hasks'
  obtain rfl := hchosen.unique hchosen'
  cases reply
  cases other
  simp only [Packet.mk.injEq]
  exact ⟨hreply.op.trans hother.op.symm,
    hreply.hardwareKind.trans hother.hardwareKind.symm,
    hreply.hardwareLength.trans hother.hardwareLength.symm,
    hreply.hops.trans hother.hops.symm,
    hreply.transaction.trans hother.transaction.symm,
    hreply.seconds.trans hother.seconds.symm,
    hreply.flags.trans hother.flags.symm,
    hreply.clientAddress.trans hother.clientAddress.symm,
    hreply.yourAddress.trans hother.yourAddress.symm,
    hreply.serverAddress.trans hother.serverAddress.symm,
    hreply.relayAddress.trans hother.relayAddress.symm,
    hreply.hardwareAddress.trans hother.hardwareAddress.symm,
    hoptions.trans hoptions'.symm⟩

/-- An answer gives no code twice. -/
theorem nodup_codes (hreply : IsAnswer lease question reply kind) :
    (reply.options.map Prod.fst).Nodup := by
  obtain ⟨asked, chosen, -, hchosen, hoptions⟩ := hreply.options
  have hoffered {entry : Entry} (hentry : entry ∈ chosen) :
      entry.1 = 1 ∨ entry.1 = 3 ∨ entry.1 = 6 := by
    obtain ⟨-, hoffers⟩ := (hchosen.mem_iff entry).1 hentry
    cases hoffers <;> simp
  have hheads : ([53, 54, 51] : List UInt8).Disjoint (chosen.map Prod.fst) := by
    intro code hhead hcode
    obtain ⟨entry, hentry, rfl⟩ := List.mem_map.1 hcode
    obtain hone | hone | hone := hoffered hentry <;> simp [hone] at hhead
  rw [hoptions, List.map_append]
  exact List.Nodup.append (by simp) hchosen.nodup_codes hheads

/-- An answer is no question, whoever serves which lease. -/
theorem not_isQuestion (hreply : IsAnswer lease question reply kind) (other : Lease)
    (code : UInt8) : ¬ IsQuestion other reply code := by
  intro hquestion
  have hop := hquestion.op
  rw [hreply.op] at hop
  exact absurd hop (by decide)

end IsAnswer

/-- Each answer is the described answer to a question of a known kind. -/
theorem respond_eq_some_iff_exists {lease : Lease} {question reply : Packet} :
    respond lease question = some reply ↔
      ∃ kind answer, IsQuestion lease question (Kind.code kind) ∧
        replyKind? kind = some answer ∧ reply = replyTo lease question answer := by
  simp only [isQuestion_iff, respond, Option.ite_none_right_eq_some, Option.bind_eq_bind,
    Option.bind_eq_some_iff, Option.pure_def, Option.some.injEq]
  constructor
  · rintro ⟨hop, answer, ⟨kind, hkind, hanswer⟩, _, hmac, rfl, rfl⟩
    exact ⟨kind, answer, ⟨hop, hkind, hmac⟩, hanswer, rfl⟩
  · rintro ⟨kind, answer, ⟨hop, hkind, hmac⟩, hanswer, rfl⟩
    exact ⟨hop, answer, ⟨kind, hkind, hanswer⟩, _, hmac, rfl, rfl⟩

/-- A responder answers the questions of its client, each with the answer to it. -/
theorem respond_eq_some_iff {lease : Lease} {question reply : Packet} :
    respond lease question = some reply ↔
      (IsQuestion lease question 1 ∧ IsAnswer lease question reply 2) ∨
      (IsQuestion lease question 3 ∧ IsAnswer lease question reply 5) := by
  rw [respond_eq_some_iff_exists]
  constructor
  · rintro ⟨kind, answer, hquestion, hanswer, rfl⟩
    obtain ⟨rfl, rfl⟩ | ⟨rfl, rfl⟩ := replyKind?_eq_some_iff.1 hanswer
    · exact .inl ⟨hquestion, isAnswer_replyTo lease question .offer⟩
    · exact .inr ⟨hquestion, isAnswer_replyTo lease question .ack⟩
  · rintro (⟨hquestion, hreply⟩ | ⟨hquestion, hreply⟩)
    · exact ⟨.discover, .offer, hquestion, rfl, hreply.unique (isAnswer_replyTo _ _ .offer)⟩
    · exact ⟨.request, .ack, hquestion, rfl, hreply.unique (isAnswer_replyTo _ _ .ack)⟩

/-- Questions of two kinds are answered, and nothing else is. -/
theorem exists_respond_iff {lease : Lease} {question : Packet} :
    (∃ reply, respond lease question = some reply) ↔
      IsQuestion lease question 1 ∨ IsQuestion lease question 3 := by
  simp only [respond_eq_some_iff]
  constructor
  · rintro ⟨_, ⟨hquestion, -⟩ | ⟨hquestion, -⟩⟩
    · exact .inl hquestion
    · exact .inr hquestion
  · rintro (hquestion | hquestion)
    · exact ⟨_, .inl ⟨hquestion, isAnswer_replyTo lease question .offer⟩⟩
    · exact ⟨_, .inr ⟨hquestion, isAnswer_replyTo lease question .ack⟩⟩

theorem exists_isAnswer {lease : Lease} {question reply : Packet}
    (hreply : respond lease question = some reply) :
    ∃ kind, IsAnswer lease question reply kind := by
  obtain ⟨-, hanswer⟩ | ⟨-, hanswer⟩ := respond_eq_some_iff.1 hreply
  · exact ⟨2, hanswer⟩
  · exact ⟨5, hanswer⟩

/-- What is answered are the questions from the client of the lease. The answer to one is the packet
that is described as such; it gives no code twice, and no responder answers it. -/
theorem respond_answers_questions (lease : Lease) (question : Packet) :
    (∀ reply, respond lease question = some reply ↔
      (IsQuestion lease question 1 ∧ IsAnswer lease question reply 2) ∨
      (IsQuestion lease question 3 ∧ IsAnswer lease question reply 5)) ∧
    ((∃ reply, respond lease question = some reply) ↔
      IsQuestion lease question 1 ∨ IsQuestion lease question 3) ∧
    ∀ reply, respond lease question = some reply →
      (reply.options.map Prod.fst).Nodup ∧ ∀ other, respond other reply = none := by
  refine ⟨fun _ ↦ respond_eq_some_iff, exists_respond_iff, fun reply hreply ↦ ?_⟩
  obtain ⟨kind, hanswer⟩ := exists_isAnswer hreply
  refine ⟨hanswer.nodup_codes, fun other ↦ ?_⟩
  refine Option.eq_none_iff_forall_ne_some.2 fun again hagain ↦ ?_
  obtain hquestion | hquestion := exists_respond_iff.1 ⟨again, hagain⟩
  · exact hanswer.not_isQuestion other 1 hquestion
  · exact hanswer.not_isQuestion other 3 hquestion

/-- A discovery that asks for the name servers twice, for the mask, for the kind, for a router that
the lease does not have and for a code that no lease has, is offered the name servers and then the
mask. -/
theorem respond_answers_questions_repeated_request :
    let lease : Lease :=
      { interface := "eth0", bridge := "br_eth0", tap := "vm_eth0"
        address := ⟨.ofBytes 172 17 0 2, 16, by decide⟩, gateway := none
        mac := ⟨⟨[2, 66, 172, 17, 0, 2], rfl⟩⟩
        dns := [.ofBytes 1 1 1 1, .ofBytes 8 8 8 8], dns6 := [] }
    let question : Packet :=
      { op := 1, hardwareKind := 1, hardwareLength := 6, hops := 0, transaction := 0x12345678
        seconds := 0, flags := 0x8000, clientAddress := .unspecified, yourAddress := .unspecified
        serverAddress := .unspecified, relayAddress := .unspecified
        hardwareAddress := .padded 16 [2, 66, 172, 17, 0, 2]
        options := [(53, [1]), (55, [6, 53, 1, 6, 3, 99]), (53, [3])] }
    ∃ reply, respond lease question = some reply ∧
      reply.options = [(53, [2]), (54, [172, 17, 0, 1]), (51, [255, 255, 255, 255]),
        (6, [1, 1, 1, 1, 8, 8, 8, 8]), (1, [255, 255, 0, 0])] ∧
      (reply.options.map Prod.fst).Nodup ∧ ∀ other, respond other reply = none := by
  intro lease question
  have hquestion : IsQuestion lease question 1 := ⟨rfl, ⟨[], _, rfl, by simp⟩, rfl, rfl, rfl⟩
  obtain ⟨-, hanswered, hafter⟩ := respond_answers_questions lease question
  obtain ⟨reply, hreply⟩ := hanswered.2 (.inl hquestion)
  refine ⟨reply, hreply, ?_, hafter reply hreply⟩
  have hoptions : (respond lease question).map Packet.options =
      some [(53, [2]), (54, [172, 17, 0, 1]), (51, [255, 255, 255, 255]),
        (6, [1, 1, 1, 1, 8, 8, 8, 8]), (1, [255, 255, 0, 0])] := by decide
  rw [hreply] at hoptions
  exact Option.some.inj hoptions

end MicroVm.Dhcp.V4
