import MicroVm.Proofs.Dhcp.V6.Answers
import MicroVm.Proofs.Text.Items

/-!
# Identities and addresses in answers

The identity of the server embeds the hardware address of the lease with one bit flipped, and so is
the identity of another client: nobody who presents it is answered. All addresses that answers carry
are link-local. A client whose identity embeds an Ethernet address is answered for that of the lease
only, and then gets the address that is made of it, however the identity embeds it. So the clients
of two leases with different hardware addresses never get the same address.
-/

namespace MicroVm.Dhcp.V6

open MicroVm.Network

/-! ## The identity of the server -/

theorem xor_two_ne_self (byte : UInt8) : byte ^^^ 2 ≠ byte := by
  intro hsame
  have htwo : (2 : UInt8) = 0 := by
    rw [← UInt8.xor_right_inj byte, hsame, UInt8.xor_zero]
  exact absurd htwo (by decide)

/-- The identity of the server embeds the address of the lease with one bit flipped. -/
theorem embeds_serverIdentity {lease : Lease} {first : UInt8} {rest : List UInt8}
    (hmac : lease.mac.octets.bytes = first :: rest) :
    Embeds (serverIdentity lease) ((first ^^^ 2) :: rest) := by
  have hserver : serverIdentity lease = [0, 3] ++ [0, 1] ++ (first ^^^ 2) :: rest := by
    rw [serverIdentity, hmac]
    rfl
  rw [hserver]
  exact .plain ⟨[0, 1], rfl⟩ (List.cons_ne_nil _ _)

/-- The identity of the server is that of another client. -/
theorem not_mayBeClient_serverIdentity (lease : Lease) :
    ¬ MayBeClient lease (serverIdentity lease) := by
  intro hclient
  have hlength := lease.mac.octets.length_bytes
  cases hmac : lease.mac.octets.bytes with
  | nil => simp [hmac] at hlength
  | cons first rest =>
    rw [hmac] at hlength
    have hsame := hclient _ (embeds_serverIdentity hmac) hlength
    rw [hmac] at hsame
    exact xor_two_ne_self first (List.cons.inj hsame).1

/-! ## Addresses -/

/-- Whether an address is link-local: its first 64 bits are those of `fe80::`. -/
def IsLinkLocal (address : Ipv6) : Prop :=
  address.octets.bytes.take 8 = [0xfe, 0x80, 0, 0, 0, 0, 0, 0]

/-- Whether an address is the link-local one that is made of a hardware address: one bit of the
first byte is flipped, and two bytes stand in the middle. -/
def IsEui64 (mac : Mac) (address : Ipv6) : Prop :=
  ∃ a b c d e f, mac.octets.bytes = [a, b, c, d, e, f] ∧ address.octets.bytes =
    [0xfe, 0x80, 0, 0, 0, 0, 0, 0, a ^^^ 2, b, c, 0xff, 0xfe, d, e, f]

/-- Whether an identity embeds an Ethernet address. -/
def EmbedsEthernet (identity : List UInt8) : Prop :=
  ∃ address, Embeds identity address ∧ address.length = 6

/-- Different hardware addresses make different addresses. -/
theorem IsEui64.mac_eq {mac other : Mac} {address : Ipv6} (haddress : IsEui64 mac address)
    (hother : IsEui64 other address) : mac = other := by
  obtain ⟨a, b, c, d, e, f, hmac, hbytes⟩ := haddress
  obtain ⟨a', b', c', d', e', f', hmac', hbytes'⟩ := hother
  rw [hbytes] at hbytes'
  ext1
  ext1
  rw [hmac, hmac']
  simpa using hbytes'

theorem isLinkLocal_guestAddress (identity : List UInt8) : IsLinkLocal (guestAddress identity) := by
  simp [IsLinkLocal, guestAddress, linkLocal, Octets.padded]

/-- The identity of a client that embeds an Ethernet address gives the address made of that of the
lease. -/
theorem isEui64_guestAddress {lease : Lease} {identity : List UInt8}
    (hclient : MayBeClient lease identity) (hembeds : EmbedsEthernet identity) :
    IsEui64 lease.mac (guestAddress identity) := by
  obtain ⟨address, hembeds, hlength⟩ := hembeds
  have hmac := hclient address hembeds hlength
  match address, hlength with
  | [a, b, c, d, e, f], _ =>
    refine ⟨a, b, c, d, e, f, hmac.symm, ?_⟩
    rw [guestAddress, interfaceId, linkLayer?_eq_some_iff.2 hembeds]
    rfl

/-! ## What answers carry -/

/-- Whether an option is an association with an address inside. -/
def Holds (entry : Entry) (address : Ipv6) : Prop :=
  entry.1 = 3 ∧ ∃ options value, decodeOptions (entry.2.drop 12) = .ok options ∧
    (5, value) ∈ options ∧ value.take 16 = address.octets.bytes

/-- Whether an answer carries an address in one of its associations. -/
def Carries (reply : Message) (address : Ipv6) : Prop :=
  ∃ entry ∈ reply.options, Holds entry address

section

variable {lease : Lease} {question reply : Message} {identity : List UInt8} {address : Ipv6}
  {told : List Entry}

theorem RepliesTo.holds_iff {timeByte : UInt8} {code : UInt16} {value : List UInt8}
    {asked reply : Entry} (hreply : RepliesTo timeByte (code, value) asked reply) :
    Holds reply address ↔ code = 5 ∧ value.take 16 = address.octets.bytes := by
  simp only [Holds, hreply.code, hreply.inside, true_and, Except.ok.injEq]
  constructor
  · rintro ⟨_, other, rfl, hmem, hvalue⟩
    cases List.mem_singleton.1 hmem
    exact ⟨rfl, hvalue⟩
  · rintro ⟨rfl, hvalue⟩
    exact ⟨_, value, rfl, List.mem_singleton_self _, hvalue⟩

/-- Replies to associations hold what is put into each of them, if there are any. -/
theorem exists_holds_iff {timeByte : UInt8} {code : UInt16} {value : List UInt8}
    {asked replies : List Entry}
    (hreplies : List.Forall₂ (RepliesTo timeByte (code, value)) asked replies) :
    (∃ entry ∈ replies, Holds entry address) ↔
      asked ≠ [] ∧ code = 5 ∧ value.take 16 = address.octets.bytes := by
  induction hreplies with
  | nil => simp
  | cons hreply _ ih =>
    simp only [List.exists_mem_cons_iff, hreply.holds_iff, ih]
    simp

/-- What is granted begins with the address for its client. -/
theorem take_grantedAddress_iff :
    (grantedAddress identity).2.take 16 = address.octets.bytes ↔
      address = guestAddress identity := by
  have htake : (grantedAddress identity).2.take 16 = (guestAddress identity).octets.bytes :=
    List.take_left' (guestAddress identity).octets.length_bytes
  rw [htake]
  constructor
  · intro hsame
    exact (Ipv6.ext (Octets.ext hsame)).symm
  · rintro rfl
    rfl

theorem NamesServers.not_holds {servers : List Entry} (hservers : NamesServers lease servers) :
    ∀ entry ∈ servers, ¬ Holds entry address := by
  cases hservers with
  | nothing => simp
  | all => simp [Holds]

/-- The addresses that are told are all the one of the client's identity. -/
theorem Tells.exists_holds_iff (htells : Tells lease question identity told) :
    (∃ entry ∈ told, Holds entry address) ↔
      question.kindCode ∈ ([1, 3, 5, 6] : List UInt8) ∧ askedAssociations question ≠ [] ∧
        address = guestAddress identity := by
  cases htells with
  | @grants granted servers hkind hgranted hservers =>
    have hnone : ¬ ∃ entry ∈ servers, Holds entry address := by
      simpa using hservers.not_holds
    calc
      _ ↔ ∃ entry ∈ granted, Holds entry address := by
        simp only [List.mem_append, or_and_right, exists_or, hnone, or_false]
      _ ↔ askedAssociations question ≠ [] ∧ address = guestAddress identity := by
        rw [V6.exists_holds_iff hgranted, ← take_grantedAddress_iff]
        exact and_congr_right' (and_iff_right rfl)
      _ ↔ _ := (and_iff_right hkind).symm
  | notOnLink hkind => simp [hkind, Holds]
  | noBindings hkind hrefused =>
    rw [V6.exists_holds_iff hrefused]
    simp [hkind]

/-- Nothing that is told is an identity. -/
theorem Tells.code_ne (htells : Tells lease question identity told) :
    ∀ entry ∈ told, ¬ (entry.1 = 1 ∨ entry.1 = 2) := by
  have hassociations {timeByte : UInt8} {inside : Entry} {asked replies : List Entry}
      (hreplies : List.Forall₂ (RepliesTo timeByte inside) asked replies) :
      ∀ entry ∈ replies, ¬ (entry.1 = 1 ∨ entry.1 = 2) := by
    intro entry hmem
    obtain ⟨_, hreply⟩ := Text.exists_of_mem_right hreplies hmem
    simp [hreply.code]
  cases htells with
  | grants _ hgranted hservers =>
    refine List.forall_mem_append.2 ⟨hassociations hgranted, ?_⟩
    cases hservers <;> simp
  | notOnLink => simp
  | noBindings _ hrefused => exact hassociations hrefused

namespace IsAnswer

/-- An answer has two identities, that of the client and that of the server. -/
theorem identities_eq (hanswer : IsAnswer lease question identity reply) :
    (reply.options.filter fun entry ↦ entry.1 = 1 ∨ entry.1 = 2) =
      [(1, identity), (2, serverIdentity lease)] := by
  obtain ⟨told, htells, hoptions⟩ := hanswer.options
  have hnone : (told.filter fun entry ↦ entry.1 = 1 ∨ entry.1 = 2) = [] :=
    List.filter_eq_nil_iff.2 fun entry hmem ↦ by simpa using htells.code_ne entry hmem
  rw [hoptions, List.filter_append, hnone]
  rfl

theorem carries_iff (hanswer : IsAnswer lease question identity reply) :
    Carries reply address ↔
      question.kindCode ∈ ([1, 3, 5, 6] : List UInt8) ∧ askedAssociations question ≠ [] ∧
        address = guestAddress identity := by
  obtain ⟨told, htells, hoptions⟩ := hanswer.options
  rw [← htells.exists_holds_iff, Carries, hoptions]
  simp [Holds]

end IsAnswer

/-- A question that is answered is one of the client with its first identity. -/
theorem isAnswer_of_isFirst (hreply : respond lease question = some reply)
    (hfirst : IsFirst question.options 1 identity) :
    MayBeClient lease identity ∧ IsAnswer lease question identity reply := by
  obtain ⟨other, hquestion, hanswer⟩ := respond_eq_some_iff.1 hreply
  obtain rfl := hfirst.unique hquestion.first
  exact ⟨hquestion.client, hanswer⟩

theorem isEui64_of_carries (hreply : respond lease question = some reply)
    (hfirst : IsFirst question.options 1 identity) (hembeds : EmbedsEthernet identity)
    (hcarries : Carries reply address) : IsEui64 lease.mac address := by
  obtain ⟨hclient, hanswer⟩ := isAnswer_of_isFirst hreply hfirst
  obtain ⟨-, -, rfl⟩ := hanswer.carries_iff.1 hcarries
  exact isEui64_guestAddress hclient hembeds

/-- An answer has different identities of client and server. It carries link-local addresses only,
and it carries one when the question is of a kind that asks for addresses and asks for an
association. When the client's identity embeds an Ethernet address, the address is the one made of
that of the lease, which no such client of a lease with another hardware address gets. -/
theorem respond_gives_own_addresses (hreply : respond lease question = some reply) :
    (∃ client server, client ≠ server ∧
      (reply.options.filter fun entry ↦ entry.1 = 1 ∨ entry.1 = 2) =
        [(1, client), (2, server)]) ∧
    (∀ address, Carries reply address → IsLinkLocal address) ∧
    ((∃ address, Carries reply address) ↔
      question.kindCode ∈ ([1, 3, 5, 6] : List UInt8) ∧ askedAssociations question ≠ []) ∧
    ∀ identity, IsFirst question.options 1 identity → EmbedsEthernet identity →
      (∀ address, Carries reply address → IsEui64 lease.mac address) ∧
      ∀ other asked answer another, respond other asked = some answer →
        IsFirst asked.options 1 another → EmbedsEthernet another → other.mac ≠ lease.mac →
        ∀ address, Carries reply address → ¬ Carries answer address := by
  obtain ⟨identity, hquestion, hanswer⟩ := respond_eq_some_iff.1 hreply
  have hapart : identity ≠ serverIdentity lease := by
    rintro rfl
    exact not_mayBeClient_serverIdentity lease hquestion.client
  refine ⟨⟨_, _, hapart, hanswer.identities_eq⟩, fun address hcarries ↦ ?_, ?_, ?_⟩
  · obtain ⟨-, -, rfl⟩ := hanswer.carries_iff.1 hcarries
    exact isLinkLocal_guestAddress identity
  · simp [hanswer.carries_iff]
  · intro first hfirst hembeds
    refine ⟨fun address ↦ isEui64_of_carries hreply hfirst hembeds, ?_⟩
    intro other asked answer another hother hothers hanother hmac address hcarries hshared
    have haddress := isEui64_of_carries hreply hfirst hembeds hcarries
    exact hmac ((isEui64_of_carries hother hothers hanother hshared).mac_eq haddress)

end

/-- Two clients of two leases whose identities embed their Ethernet addresses in the two ways and
for odd kinds of hardware get the addresses made of them, which are two. -/
theorem respond_gives_own_addresses_two_leases :
    let lease (last : UInt8) : Lease :=
      { interface := "eth0", bridge := "br_eth0", tap := "vm_eth0"
        address := ⟨.ofBytes 172 17 0 last, 16, by decide⟩, gateway := none
        mac := ⟨⟨[2, 66, 172, 17, 0, last], rfl⟩⟩, dns := [], dns6 := [] }
    let question (kindCode : UInt8) (identity : List UInt8) : Message :=
      { kindCode, transaction := ⟨[7, 8, 9], rfl⟩
        options := [(1, identity), (3, List.replicate 12 0)] }
    ∃ reply answer address another,
      respond (lease 2) (question 1 [0, 1, 0, 6, 9, 8, 7, 6, 2, 66, 172, 17, 0, 2]) = some reply ∧
      respond (lease 3) (question 6 [0, 3, 0, 32, 2, 66, 172, 17, 0, 3]) = some answer ∧
      Carries reply address ∧ Carries answer another ∧ address.octets.bytes =
        [0xfe, 0x80, 0, 0, 0, 0, 0, 0, 0, 66, 172, 0xff, 0xfe, 17, 0, 2] ∧
      IsLinkLocal another ∧ ¬ Carries answer address := by
  intro lease question
  have hclient (last : UInt8) (identity : List UInt8)
      (hembeds : Embeds identity [2, 66, 172, 17, 0, last]) :
      MayBeClient (lease last) identity := by
    intro address haddress _
    rw [← linkLayer?_eq_some_iff] at hembeds haddress
    exact (Option.some.inj (hembeds.symm.trans haddress)).symm
  have htimed : Embeds [0, 1, 0, 6, 9, 8, 7, 6, 2, 66, 172, 17, 0, 2] [2, 66, 172, 17, 0, 2] :=
    .timed ⟨[0, 6], rfl⟩ ⟨[9, 8, 7, 6], rfl⟩ (List.cons_ne_nil _ _)
  have hplain : Embeds [0, 3, 0, 32, 2, 66, 172, 17, 0, 3] [2, 66, 172, 17, 0, 3] :=
    .plain ⟨[0, 32], rfl⟩ (List.cons_ne_nil _ _)
  have hfirst (kindCode : UInt8) (identity : List UInt8) :
      IsFirst (question kindCode identity).options 1 identity := ⟨[], _, rfl, by simp⟩
  obtain ⟨reply, hreply⟩ := exists_respond_iff.2
    ⟨_, hfirst 1 _, hclient 2 _ htimed, (by decide : (1 : UInt8) ∈ [1, 3, 4, 5, 6, 8])⟩
  obtain ⟨answer, hanswer⟩ := exists_respond_iff.2
    ⟨_, hfirst 6 _, hclient 3 _ hplain, (by decide : (6 : UInt8) ∈ [1, 3, 4, 5, 6, 8])⟩
  obtain ⟨-, -, hcarries, hown⟩ := respond_gives_own_addresses hreply
  obtain ⟨-, hlocal, hothers, -⟩ := respond_gives_own_addresses hanswer
  obtain ⟨address, haddress⟩ := hcarries.2 ⟨by decide, by decide⟩
  obtain ⟨another, hanother⟩ := hothers.2 ⟨by decide, by decide⟩
  obtain ⟨hmade, hapart⟩ := hown _ (hfirst 1 _) ⟨_, htimed, rfl⟩
  obtain ⟨a, b, c, d, e, f, hmac, hbytes⟩ := hmade address haddress
  cases hmac
  exact ⟨reply, answer, address, another, hreply, hanswer, haddress, hanother, hbytes,
    hlocal another hanother, hapart _ _ answer _ hanswer (hfirst 6 _) ⟨_, hplain, rfl⟩ (by decide)
      address haddress⟩

end MicroVm.Dhcp.V6
