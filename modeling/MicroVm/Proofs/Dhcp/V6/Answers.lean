import Mathlib.Data.List.Forall2
import MicroVm.Dhcp.V6.Responder
import MicroVm.Proofs.Dhcp.Options
import MicroVm.Proofs.Dhcp.V6.MessageFormat

/-!
# Questions and their answers

What a responder answers, and with what, is said here by the options of the two messages. A question
has an identity, and this embeds no Ethernet address but that of the lease. An answer repeats the
identity, adds that of the server and has, in the order of the question, one association for each
that was asked for: with an address that is valid for ever, or with the status that it is not known.

The messages that are answered are exactly the questions, and each is answered with the one message
that is its answer. An answer is no question, to any responder.
-/

namespace MicroVm.Dhcp.V6

open MicroVm.Network

/-! ## Identities -/

theorem Message.option?_eq_some_iff {message : Message} {code : UInt16} {value : List UInt8} :
    message.option? code = some value ↔ IsFirst message.options code value := by
  rw [Message.option?, Message.optionsOf, List.head?_map, List.head?_filter]
  exact find?_code_eq_some_iff

/-- Whether an identity embeds a link-layer address. It stands behind the kind of the hardware and
the time when the identity was made, or behind the kind of the hardware alone. -/
inductive Embeds : List UInt8 → List UInt8 → Prop
  | timed (hardware : Octets 2) (time : Octets 4) {address : List UInt8} (hne : address ≠ []) :
      Embeds ([0, 1] ++ hardware.bytes ++ time.bytes ++ address) address
  | plain (hardware : Octets 2) {address : List UInt8} (hne : address ≠ []) :
      Embeds ([0, 3] ++ hardware.bytes ++ address) address

theorem linkLayer?_eq_some_iff {identity address : List UInt8} :
    linkLayer? identity = some address ↔ Embeds identity address := by
  constructor
  · intro hembeds
    unfold linkLayer? at hembeds
    split at hembeds
    · rename_i h0 h1 t0 t1 t2 t3 first rest
      cases hembeds
      exact .timed ⟨[h0, h1], rfl⟩ ⟨[t0, t1, t2, t3], rfl⟩ (List.cons_ne_nil first rest)
    · rename_i h0 h1 first rest
      cases hembeds
      exact .plain ⟨[h0, h1], rfl⟩ (List.cons_ne_nil first rest)
    · cases hembeds
  · intro hembeds
    cases hembeds with
    | timed hardware time hne =>
      obtain ⟨kind, hkind⟩ := hardware
      obtain ⟨made, hmade⟩ := time
      match kind, hkind, made, hmade, address, hne with
      | [_, _], _, [_, _, _, _], _, _ :: _, _ => rfl
    | plain hardware hne =>
      obtain ⟨kind, hkind⟩ := hardware
      match kind, hkind, address, hne with
      | [_, _], _, _ :: _, _ => rfl

/-- Whether an identity may be that of the client of a lease: it embeds no other Ethernet
address. -/
def MayBeClient (lease : Lease) (identity : List UInt8) : Prop :=
  ∀ address, Embeds identity address → address.length = 6 → address = lease.mac.octets.bytes

/-- An identity is turned down exactly when it embeds the address of another client. -/
theorem isForeign_eq_false_iff {lease : Lease} {identity : List UInt8} :
    isForeign lease identity = false ↔ MayBeClient lease identity := by
  unfold isForeign MayBeClient
  simp only [← linkLayer?_eq_some_iff]
  cases linkLayer? identity with
  | none => simp
  | some address => simp

/-! ## Questions -/

theorem Kind.ofCode?_eq_some_iff {code : UInt8} {kind : Kind} :
    Kind.ofCode? code = some kind ↔ code = kind.code :=
  find?_number_eq_some_iff fun kind ↦ by cases kind <;> rfl

/-- Whether a message is a question that a client with an identity asks the responder of a lease. -/
structure IsQuestion (lease : Lease) (question : Message) (identity : List UInt8) : Prop where
  first : IsFirst question.options 1 identity
  client : MayBeClient lease identity
  kind : question.kindCode ∈ ([1, 3, 4, 5, 6, 8] : List UInt8)

/-- The numbers of the kinds that are answered are such of kinds. -/
theorem exists_eq_code {code : UInt8} (hcode : code ∈ ([1, 3, 4, 5, 6, 8] : List UInt8)) :
    ∃ kind, code = Kind.code kind := by
  simp only [List.mem_cons, List.not_mem_nil, or_false] at hcode
  obtain rfl | rfl | rfl | rfl | rfl | rfl := hcode
  · exact ⟨.solicit, rfl⟩
  · exact ⟨.request, rfl⟩
  · exact ⟨.confirm, rfl⟩
  · exact ⟨.renew, rfl⟩
  · exact ⟨.rebind, rfl⟩
  · exact ⟨.release, rfl⟩

/-- The associations that a message asks for, in its order. One of less than 12 bytes counts for
nothing. -/
def askedAssociations (question : Message) : List Entry :=
  question.options.filter fun entry ↦ entry.1 = 3 ∧ 12 ≤ entry.2.length

theorem associationIds_eq (question : Message) :
    associationIds question = (askedAssociations question).map fun entry ↦ entry.2.take 4 := by
  simp [associationIds, askedAssociations, Message.optionsOf, List.filter_map, Function.comp_def,
    List.filter_filter, Code.association, Bool.and_comm, Bool.beq_eq_decide_eq]

theorem length_of_mem_askedAssociations {question : Message} {entry : Entry}
    (hmem : entry ∈ askedAssociations question) : 12 ≤ entry.2.length := by
  have hasked := (List.mem_filter.1 hmem).2
  exact (of_decide_eq_true hasked).2

/-! ## Associations in answers -/

/-- Whether an association replies to one that was asked for: with the same id, with each byte of
its two times the given one, and with one option inside. -/
structure RepliesTo (timeByte : UInt8) (inside asked reply : Entry) : Prop where
  code : reply.1 = 3
  id : reply.2.take 4 = asked.2.take 4
  times : (reply.2.drop 4).take 8 = List.replicate 8 timeByte
  inside : decodeOptions (reply.2.drop 12) = .ok [inside]

section

variable {time : UInt32} {timeByte : UInt8} {inside asked reply : Entry}

theorem association_eq (htime : bytesOfWord32 time = List.replicate 4 timeByte) (id : List UInt8) :
    association id time [inside] =
      (3, id ++ (List.replicate 8 timeByte ++ encodeOptions [inside])) := by
  have htimes : bytesOfWord32 time ++ bytesOfWord32 time = List.replicate 8 timeByte := by
    rw [htime, List.replicate_append_replicate]
  simp [association, Code.association, ← htimes]

/-- A reply to an association carries its id, the times and what is put inside, and nothing more. -/
theorem eq_association_of_repliesTo (htime : bytesOfWord32 time = List.replicate 4 timeByte)
    (hreply : RepliesTo timeByte inside asked reply) :
    reply = association (asked.2.take 4) time [inside] := by
  obtain ⟨code, value⟩ := reply
  obtain ⟨rfl, hid, htimes, hinside⟩ := hreply
  rw [association_eq htime]
  congr 1
  calc
    value = value.take 4 ++ ((value.drop 4).take 8 ++ (value.drop 4).drop 8) := by
      rw [List.take_append_drop, List.take_append_drop]
    _ = _ := by
      rw [hid, htimes, List.drop_drop, eq_encodeOptions_of_decodeOptions hinside]

theorem repliesTo_association (htime : bytesOfWord32 time = List.replicate 4 timeByte)
    (hinside : inside.2.length ≤ 65535) (hasked : 12 ≤ asked.2.length) :
    RepliesTo timeByte inside asked (association (asked.2.take 4) time [inside]) := by
  have hid : (asked.2.take 4).length = 4 := List.length_take_of_le (by omega)
  have htimes : (List.replicate 8 timeByte).length = 8 := List.length_replicate
  have hshort : AllShort [inside] := by simpa [AllShort] using hinside
  rw [association_eq htime]
  refine ⟨rfl, List.take_left' hid, ?_, ?_⟩
  · rw [List.drop_left' hid, List.take_left' htimes]
  · have hbody : (asked.2.take 4 ++ (List.replicate 8 timeByte ++ encodeOptions [inside])).drop 12 =
        encodeOptions [inside] := by
      rw [← List.append_assoc, List.drop_left' (by rw [List.length_append, hid, htimes])]
    rw [hbody, decodeOptions_encodeOptions hshort]

/-- The replies to associations, each to one and in their order. -/
theorem forall₂_repliesTo_iff (htime : bytesOfWord32 time = List.replicate 4 timeByte)
    (hinside : inside.2.length ≤ 65535) {question : Message} {replies : List Entry} :
    List.Forall₂ (RepliesTo timeByte inside) (askedAssociations question) replies ↔
      replies = (associationIds question).map fun id ↦ association id time [inside] := by
  rw [associationIds_eq, List.map_map]
  constructor
  · intro hreplies
    have hsame : List.Forall₂ (fun asked reply ↦ association (asked.2.take 4) time [inside] = reply)
        (askedAssociations question) replies :=
      hreplies.imp fun _ _ hreply ↦ (eq_association_of_repliesTo htime hreply).symm
    have hmapped := List.forall₂_map_left_iff.2 hsame
    rw [List.forall₂_eq_eq_eq] at hmapped
    exact hmapped.symm
  · rintro rfl
    refine List.forall₂_map_right_iff.2 (List.forall₂_same.2 fun asked hmem ↦ ?_)
    exact repliesTo_association htime hinside (length_of_mem_askedAssociations hmem)

end

/-! ## Answers -/

/-- Whether options name the servers of a lease, unless it has none. -/
inductive NamesServers (lease : Lease) : List Entry → Prop
  | nothing (hnone : lease.dns6 = []) : NamesServers lease []
  | all (hsome : lease.dns6 ≠ []) :
      NamesServers lease [(23, lease.dns6.flatMap fun server ↦ server.octets.bytes)]

/-- The address for the client with an identity, valid for ever. -/
def grantedAddress (identity : List UInt8) : Entry :=
  (5, (guestAddress identity).octets.bytes ++ List.replicate 8 255)

/-- What an answer says beside the two identities: for each association that is asked for an
address, and the name servers; or that the client's addresses do not belong to the link; or for each
association that is given back that it is not known. -/
inductive Tells (lease : Lease) (question : Message) (identity : List UInt8) : List Entry → Prop
  | grants {granted servers : List Entry}
      (hkind : question.kindCode ∈ ([1, 3, 5, 6] : List UInt8))
      (hgranted : List.Forall₂ (RepliesTo 255 (grantedAddress identity))
        (askedAssociations question) granted)
      (hservers : NamesServers lease servers) :
      Tells lease question identity (granted ++ servers)
  | notOnLink (hkind : question.kindCode = 4) :
      Tells lease question identity [(13, [0, 4] ++ "addresses are not on link".toUTF8.toList)]
  | noBindings {refused : List Entry} (hkind : question.kindCode = 8)
      (hrefused : List.Forall₂ (RepliesTo 0 (13, [0, 3] ++ "no binding".toUTF8.toList))
        (askedAssociations question) refused) :
      Tells lease question identity refused

/-- Whether a message is the answer to the question that a client with an identity asks. -/
structure IsAnswer (lease : Lease) (question : Message) (identity : List UInt8)
    (reply : Message) : Prop where
  kind : reply.kindCode = if question.kindCode = 1 then 2 else 7
  transaction : reply.transaction = question.transaction
  options : ∃ told, Tells lease question identity told ∧
    reply.options = [(1, identity), (2, serverIdentity lease)] ++ told

theorem namesServers_iff {lease : Lease} {servers : List Entry} :
    NamesServers lease servers ↔ servers =
      if lease.dns6.isEmpty then []
      else [(Code.dnsServers, lease.dns6.flatMap fun server ↦ server.octets.bytes)] := by
  constructor
  · intro hservers
    cases hservers with
    | nothing hnone => simp [hnone]
    | all hsome => simp [hsome, Code.dnsServers]
  · rintro rfl
    by_cases hnone : lease.dns6 = []
    · simpa [hnone] using NamesServers.nothing hnone
    · simpa [hnone, Code.dnsServers] using NamesServers.all hnone

section

variable {lease : Lease} {question reply : Message} {identity : List UInt8} {told : List Entry}

theorem length_grantedAddress (identity : List UInt8) :
    (grantedAddress identity).2.length = 24 := by
  simp [grantedAddress, (guestAddress identity).octets.length_bytes]

theorem addressOption_guestAddress (identity : List UInt8) :
    addressOption (guestAddress identity) = grantedAddress identity := by
  have htime : bytesOfWord32 infinity ++ bytesOfWord32 infinity = List.replicate 8 255 := rfl
  simp [addressOption, grantedAddress, Code.address, ← htime]

/-- Associations that are granted are those that the responder makes. -/
theorem forall₂_granted_iff {granted : List Entry} :
    List.Forall₂ (RepliesTo 255 (grantedAddress identity)) (askedAssociations question) granted ↔
      granted = (associationIds question).map fun id ↦
        association id infinity [addressOption (guestAddress identity)] := by
  have htime : bytesOfWord32 infinity = List.replicate 4 255 := rfl
  rw [addressOption_guestAddress]
  exact forall₂_repliesTo_iff htime (by rw [length_grantedAddress]; decide)

theorem noBinding_eq : noBinding = (13, [0, 3] ++ "no binding".toUTF8.toList) := rfl

theorem length_noBinding : noBinding.2.length = 12 := by decide +kernel

/-- Associations that are not known are those that the responder makes. -/
theorem forall₂_refused_iff {refused : List Entry} :
    List.Forall₂ (RepliesTo 0 (13, [0, 3] ++ "no binding".toUTF8.toList))
        (askedAssociations question) refused ↔
      refused = (associationIds question).map fun id ↦ association id 0 [noBinding] := by
  have htime : bytesOfWord32 0 = List.replicate 4 0 := rfl
  rw [← noBinding_eq]
  exact forall₂_repliesTo_iff htime (by rw [length_noBinding]; decide)

/-- What an answer says is what the responder puts into it. -/
theorem tells_iff :
    Tells lease question identity told ↔
      (question.kindCode ∈ ([1, 3, 5, 6] : List UInt8) ∧
        told = grantOptions lease identity question) ∨
      (question.kindCode = 4 ∧ told = [notOnLink]) ∨
      (question.kindCode = 8 ∧
        told = (associationIds question).map fun id ↦ association id 0 [noBinding]) := by
  constructor
  · intro htells
    cases htells with
    | grants hkind hgranted hservers =>
      rw [forall₂_granted_iff.1 hgranted, namesServers_iff.1 hservers]
      exact .inl ⟨hkind, rfl⟩
    | notOnLink hkind => exact .inr (.inl ⟨hkind, rfl⟩)
    | noBindings hkind hrefused => exact .inr (.inr ⟨hkind, forall₂_refused_iff.1 hrefused⟩)
  · rintro (⟨hkind, rfl⟩ | ⟨hkind, rfl⟩ | ⟨hkind, rfl⟩)
    · exact .grants hkind (forall₂_granted_iff.2 rfl) (namesServers_iff.2 rfl)
    · exact .notOnLink hkind
    · exact .noBindings hkind (forall₂_refused_iff.2 rfl)

/-- Only six kinds of questions are told anything. -/
theorem Tells.kind_mem (htells : Tells lease question identity told) :
    question.kindCode ∈ ([1, 3, 4, 5, 6, 8] : List UInt8) := by
  obtain ⟨hkind, -⟩ | ⟨hkind, -⟩ | ⟨hkind, -⟩ := tells_iff.1 htells
  · simp only [List.mem_cons] at hkind ⊢
    tauto
  · simp [hkind]
  · simp [hkind]

/-- There is something to tell each client that asks. -/
theorem exists_tells (lease : Lease) (identity : List UInt8)
    (hkind : question.kindCode ∈ ([1, 3, 4, 5, 6, 8] : List UInt8)) :
    ∃ told, Tells lease question identity told := by
  simp only [tells_iff]
  by_cases hconfirm : question.kindCode = 4
  · exact ⟨_, .inr (.inl ⟨hconfirm, rfl⟩)⟩
  by_cases hrelease : question.kindCode = 8
  · exact ⟨_, .inr (.inr ⟨hrelease, rfl⟩)⟩
  · refine ⟨_, .inl ⟨?_, rfl⟩⟩
    simp only [List.mem_cons] at hkind ⊢
    tauto

/-- Kind and further options of an answer are what a question of a kind is to be told. -/
theorem exists_replyOf?_iff {kind : Kind} {code : UInt8} (hkind : question.kindCode = kind.code) :
    (∃ answer, replyOf? lease identity question kind = some (answer, told) ∧
        code = Kind.code answer) ↔
      Tells lease question identity told ∧ code = if question.kindCode = 1 then 2 else 7 := by
  rw [tells_iff, hkind]
  cases kind <;> simp [replyOf?, Kind.code, eq_comm]

/-- Each answer goes to an identity that may be the client's, and is what its question is told. -/
theorem respond_eq_some_iff_exists :
    respond lease question = some reply ↔
      ∃ identity kind answer told, IsFirst question.options 1 identity ∧
        MayBeClient lease identity ∧ question.kindCode = Kind.code kind ∧
        replyOf? lease identity question kind = some (answer, told) ∧
        reply = ⟨answer.code, question.transaction,
          [(1, identity), (2, serverIdentity lease)] ++ told⟩ := by
  simp only [respond, Option.bind_eq_bind, Option.bind_eq_some_iff, Option.pure_def,
    Message.option?_eq_some_iff, Option.ite_none_left_eq_some, Bool.not_eq_true,
    isForeign_eq_false_iff, Message.kind?, Kind.ofCode?_eq_some_iff, Option.some.injEq]
  constructor
  · rintro ⟨identity, hfirst, hclient, ⟨answer, told⟩, ⟨kind, hkind, hreply⟩, rfl⟩
    exact ⟨identity, kind, answer, told, hfirst, hclient, hkind, hreply, rfl⟩
  · rintro ⟨identity, kind, answer, told, hfirst, hclient, hkind, hreply, rfl⟩
    exact ⟨identity, hfirst, hclient, (answer, told), ⟨kind, hkind, hreply⟩, rfl⟩

/-- A responder answers the questions of its client, each with the answer to it. -/
theorem respond_eq_some_iff :
    respond lease question = some reply ↔
      ∃ identity, IsQuestion lease question identity ∧
        IsAnswer lease question identity reply := by
  rw [respond_eq_some_iff_exists]
  constructor
  · rintro ⟨identity, kind, answer, told, hfirst, hclient, hkind, hreply, rfl⟩
    obtain ⟨htells, hcode⟩ := (exists_replyOf?_iff hkind).1 ⟨answer, hreply, rfl⟩
    exact ⟨identity, ⟨hfirst, hclient, htells.kind_mem⟩, hcode, rfl, told, htells, rfl⟩
  · rintro ⟨identity, ⟨hfirst, hclient, hmem⟩, hcode, htransaction, told, htells, hoptions⟩
    obtain ⟨kind, hkind⟩ := exists_eq_code hmem
    obtain ⟨answer, hreply, hsame⟩ := (exists_replyOf?_iff hkind).2 ⟨htells, hcode⟩
    refine ⟨identity, kind, answer, told, hfirst, hclient, hkind, hreply, ?_⟩
    cases reply
    simp_all

/-- What is answered are the questions of some identity. -/
theorem exists_respond_iff :
    (∃ reply, respond lease question = some reply) ↔
      ∃ identity, IsQuestion lease question identity := by
  simp only [respond_eq_some_iff]
  constructor
  · rintro ⟨_, identity, hquestion, -⟩
    exact ⟨identity, hquestion⟩
  · rintro ⟨identity, hquestion⟩
    obtain ⟨told, htells⟩ := exists_tells lease identity hquestion.kind
    exact ⟨⟨_, _, _⟩, identity, hquestion, rfl, rfl, told, htells, rfl⟩

/-- An answer is no question, whoever serves which lease. -/
theorem IsAnswer.not_isQuestion (hreply : IsAnswer lease question identity reply) (other : Lease)
    (another : List UInt8) : ¬ IsQuestion other reply another := by
  intro hquestion
  have hkind := hquestion.kind
  rw [hreply.kind] at hkind
  split at hkind <;> simp at hkind

end

/-- What is answered are the questions from the client of the lease. The answer to one is the
message that is described as such, and no responder answers it. -/
theorem respond_answers_clients (lease : Lease) (question : Message) :
    (∀ reply, respond lease question = some reply ↔
      ∃ identity, IsQuestion lease question identity ∧
        IsAnswer lease question identity reply) ∧
    ((∃ reply, respond lease question = some reply) ↔
      ∃ identity, IsQuestion lease question identity) ∧
    ∀ reply, respond lease question = some reply → ∀ other, respond other reply = none := by
  refine ⟨fun _ ↦ respond_eq_some_iff, exists_respond_iff, fun reply hreply other ↦ ?_⟩
  obtain ⟨identity, -, hanswer⟩ := respond_eq_some_iff.1 hreply
  refine Option.eq_none_iff_forall_ne_some.2 fun again hagain ↦ ?_
  obtain ⟨another, hquestion⟩ := exists_respond_iff.1 ⟨again, hagain⟩
  exact hanswer.not_isQuestion other another hquestion

/-- A renewal with two identities, two associations and one that is too short is answered by the
first identity, with an address for each of the two and with both name servers. -/
theorem respond_answers_clients_two_associations :
    let lease : Lease :=
      { interface := "eth0", bridge := "br_eth0", tap := "vm_eth0"
        address := ⟨.ofBytes 172 17 0 2, 16, by decide⟩, gateway := none
        mac := ⟨⟨[2, 66, 172, 17, 0, 2], rfl⟩⟩, dns := []
        dns6 := [.ofGroups [0xfd00, 0, 0, 0, 0, 0, 0, 0x53], .ofGroups [0x2001, 0xdb8]] }
    let identity : List UInt8 := [0, 3, 0, 1, 2, 66, 172, 17, 0, 2]
    let question : Message :=
      { kindCode := 5, transaction := ⟨[7, 8, 9], rfl⟩
        options := [(3, [0, 0, 0, 1] ++ List.replicate 8 0), (1, identity), (3, [0, 0, 0, 2]),
          (1, [0, 3, 0, 1, 2, 66, 172, 17, 0, 9]),
          (3, [0, 0, 0, 3] ++ List.replicate 8 0 ++ [0, 5])] }
    let granted (id : UInt8) : Entry :=
      (3, [0, 0, 0, id] ++ List.replicate 8 255 ++ [0, 5, 0, 24] ++
        [0xfe, 0x80, 0, 0, 0, 0, 0, 0, 0, 66, 172, 0xff, 0xfe, 17, 0, 2] ++ List.replicate 8 255)
    IsQuestion lease question identity ∧
    ∃ reply, respond lease question = some reply ∧ reply.kindCode = 7 ∧
      reply.options = [(1, identity), (2, [0, 3, 0, 1, 0, 66, 172, 17, 0, 2]), granted 1, granted 3,
        (23, [0xfd, 0, 0, 0, 0, 0, 0, 0, 0, 0, 0, 0, 0, 0, 0, 0x53] ++
          [0x20, 1, 0xd, 0xb8, 0, 0, 0, 0, 0, 0, 0, 0, 0, 0, 0, 0])] ∧
      ∀ other, respond other reply = none := by
  intro lease identity question granted
  have hclient : MayBeClient lease identity := isForeign_eq_false_iff.1 (by decide)
  have hquestion : IsQuestion lease question identity :=
    ⟨⟨[_], _, rfl, by simp⟩, hclient, by decide⟩
  obtain ⟨-, hanswered, hafter⟩ := respond_answers_clients lease question
  obtain ⟨reply, hreply⟩ := hanswered.2 ⟨identity, hquestion⟩
  have hcomputed : respond lease question = some ⟨7, ⟨[7, 8, 9], rfl⟩,
      [(1, identity), (2, [0, 3, 0, 1, 0, 66, 172, 17, 0, 2]), granted 1, granted 3,
        (23, [0xfd, 0, 0, 0, 0, 0, 0, 0, 0, 0, 0, 0, 0, 0, 0, 0x53] ++
          [0x20, 1, 0xd, 0xb8, 0, 0, 0, 0, 0, 0, 0, 0, 0, 0, 0, 0])]⟩ := by decide
  cases hreply.symm.trans hcomputed
  exact ⟨hquestion, _, hreply, rfl, rfl, hafter _ hreply⟩

end MicroVm.Dhcp.V6
