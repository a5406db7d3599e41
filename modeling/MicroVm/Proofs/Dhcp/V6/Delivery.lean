import MicroVm.Proofs.Dhcp.Service
import MicroVm.Proofs.Dhcp.V6.Answers
import MicroVm.Proofs.Text.Items

/-!
# Answers on the wire

An answer comes back from its bytes when 16 bits hold the length of each of its values. All values
but one have a bound: the identities, because that of the client was read from a question; the
associations, because each has one option inside; and the statuses. What is left is the list of name
servers, with 16 bytes for each. So answers come back whatever was asked, unless they name more than
4095 servers.

A datagram that is not answered leaves no trace in a run: the answers to all others are what they
are without it.
-/

namespace MicroVm.Dhcp.V6

open MicroVm.Network

/-! ## The lengths of values -/

section

variable {timeByte : UInt8} {inside : Entry}

theorem RepliesTo.length_eq {asked reply : Entry} (hreply : RepliesTo timeByte inside asked reply) :
    reply.2.length = 16 + inside.2.length := by
  have hinside : (reply.2.drop 12).length = (encodeOptions [inside]).length :=
    congrArg List.length (eq_encodeOptions_of_decodeOptions hreply.inside)
  simp only [List.length_drop, encodeOptions, encodeOption, bytesOfWord16, List.flatMap_singleton,
    List.length_append, List.length_cons, List.length_nil] at hinside
  omega

theorem allShort_of_repliesTo (hinside : inside.2.length ≤ 65519) {asked replies : List Entry}
    (hreplies : List.Forall₂ (RepliesTo timeByte inside) asked replies) : AllShort replies := by
  intro reply hmem
  obtain ⟨_, hreply⟩ := Text.exists_of_mem_right hreplies hmem
  rw [hreply.length_eq]
  omega

end

theorem length_serverIdentity (lease : Lease) : (serverIdentity lease).length = 10 := by
  have hlength := lease.mac.octets.length_bytes
  unfold serverIdentity
  cases hmac : lease.mac.octets.bytes with
  | nil => simp [hmac] at hlength
  | cons first rest => simpa [hmac] using hlength

theorem length_notOnLink : notOnLink.2.length = 27 := by decide +kernel

section

variable {lease : Lease} {question reply : Message} {identity : List UInt8}
  {told servers : List Entry}

/-- The length of the server list fits its field for up to 4095 servers. -/
theorem NamesServers.allShort_iff (hservers : NamesServers lease servers) :
    AllShort servers ↔ lease.dns6.length ≤ 4095 := by
  cases hservers with
  | nothing hnone => simp [AllShort, hnone]
  | all hsome =>
    have hlength : (lease.dns6.flatMap fun server ↦ server.octets.bytes).length =
        lease.dns6.length * 16 := by
      simp [List.length_flatMap, Octets.length_bytes]
    simp only [AllShort, List.forall_mem_singleton, hlength]
    omega

theorem Tells.allShort_iff (htells : Tells lease question identity told) :
    AllShort told ↔ lease.dns6.length ≤ 4095 ∨ question.kindCode = 4 ∨ question.kindCode = 8 := by
  cases htells with
  | @grants granted servers hkind hgranted hservers =>
    have hshort : AllShort granted :=
      allShort_of_repliesTo (by rw [length_grantedAddress]; decide) hgranted
    have hother : ¬ (question.kindCode = 4 ∨ question.kindCode = 8) := by
      rintro (hconfirm | hrelease)
      · simp [hconfirm] at hkind
      · simp [hrelease] at hkind
    calc
      _ ↔ AllShort granted ∧ AllShort servers := List.forall_mem_append
      _ ↔ lease.dns6.length ≤ 4095 := by rw [hservers.allShort_iff, and_iff_right hshort]
      _ ↔ _ := (or_iff_left hother).symm
  | notOnLink hkind =>
    have hshort : AllShort [V6.notOnLink] := by simp [AllShort, length_notOnLink]
    exact iff_of_true hshort (.inr (.inl hkind))
  | noBindings hkind hrefused =>
    rw [← noBinding_eq] at hrefused
    have hshort := allShort_of_repliesTo (by rw [length_noBinding]; decide) hrefused
    exact iff_of_true hshort (.inr (.inr hkind))

/-- The values of an answer are short when the client's identity is and what is told. -/
theorem IsAnswer.allShort_iff (hanswer : IsAnswer lease question identity reply)
    (hidentity : identity.length ≤ 65535) :
    AllShort reply.options ↔
      lease.dns6.length ≤ 4095 ∨ question.kindCode = 4 ∨ question.kindCode = 8 := by
  obtain ⟨told, htells, hoptions⟩ := hanswer.options
  have hidentities : AllShort [(1, identity), (2, serverIdentity lease)] := by
    simp [AllShort, hidentity, length_serverIdentity]
  calc
    _ ↔ AllShort [(1, identity), (2, serverIdentity lease)] ∧ AllShort told := by
      rw [hoptions]
      exact List.forall_mem_append
    _ ↔ AllShort told := and_iff_right hidentities
    _ ↔ _ := htells.allShort_iff

/-- The answer to a question that was read comes back exactly when there are not too many name
servers or when it does not name them. -/
theorem decode_encode_reply_iff {bytes : List UInt8}
    (hdecode : Message.decode bytes = .ok question) (hreply : respond lease question = some reply) :
    Message.decode reply.encode = .ok reply ↔
      lease.dns6.length ≤ 4095 ∨ question.kind? = some .confirm ∨
        question.kind? = some .release := by
  obtain ⟨identity, hquestion, hanswer⟩ := respond_eq_some_iff.1 hreply
  obtain ⟨before, after, hoptions, -⟩ := hquestion.first
  have hmem : (1, identity) ∈ question.options := by simp [hoptions]
  have hidentity := Message.allShort_of_decode hdecode _ hmem
  rw [Message.decode_encode_iff_allShort, hanswer.allShort_iff hidentity, Message.kind?,
    Kind.ofCode?_eq_some_iff, Kind.ofCode?_eq_some_iff, Kind.code, Kind.code]

end

/-! ## What a responder does with a datagram -/

/-- A responder sends the encoded answer to the message that the bytes hold, back to where it came
from. -/
theorem answer_eq_some_iff {lease : Lease} {bytes : List UInt8} {sender : Endpoint}
    {sent : List UInt8 × Endpoint} :
    (responder lease).answer bytes sender = some sent ↔
      ∃ request reply, Message.decode bytes = .ok request ∧ respond lease request = some reply ∧
        sent = (reply.encode, sender) := by
  simp only [responder, serve]
  cases hdecode : Message.decode bytes with
  | error fault => simp
  | ok request =>
    cases hreply : respond lease request with
    | none => simp [hreply]
    | some reply => simp [hreply, eq_comm]

/-- The answer to a datagram that is read and answered comes back from its bytes exactly when the
lease has at most 4095 name servers or the client asks whether its addresses belong to the link or
gives them back. Of a datagram a responder receives the first 1500 bytes. In each of its runs it
sends the answers to what it receives so, each to its sender, and nothing else. Runs in which the
same datagrams are answered send the same, whatever else arrives. -/
theorem responder_answers_on_wire (lease : Lease) :
    (∀ bytes request reply, Message.decode bytes = .ok request →
      respond lease request = some reply →
      (Message.decode reply.encode = .ok reply ↔
        lease.dns6.length ≤ 4095 ∨ request.kind? = some .confirm ∨
          request.kind? = some .release)) ∧
    (∀ datagram sender sent, (responder lease).answerTo (datagram, sender) = some sent ↔
      ∃ request reply, Message.decode (datagram.take bufferSize) = .ok request ∧
        respond lease request = some reply ∧ sent = (reply.encode, sender)) ∧
    (∀ bytes sender sent, (responder lease).answer bytes sender = some sent ↔
      ∃ request reply, Message.decode bytes = .ok request ∧ respond lease request = some reply ∧
        sent = (reply.encode, sender)) ∧
    (∀ count history result, ((responder lease).serve count).attempt.IsRun history result →
      (∃ ended, result = some ended ∧ (responder lease).IsService count history ended) ∧
      (result = some (.ok ()) → (arrivals history).length = count) ∧
      sends history = (arrivals history).filterMap (responder lease).answerTo) ∧
    ∀ count history result another other finished,
      ((responder lease).serve count).attempt.IsRun history result →
      ((responder lease).serve another).attempt.IsRun other finished →
      (responder lease).answered (arrivals history) =
        (responder lease).answered (arrivals other) → sends history = sends other := by
  refine ⟨fun _ _ _ ↦ decode_encode_reply_iff, fun _ _ _ ↦ answer_eq_some_iff,
    fun _ _ _ ↦ answer_eq_some_iff, fun count history result hrun ↦ ?_,
    fun _ _ _ _ _ _ hrun hother ↦ ?_⟩
  · obtain ⟨ended, rfl, hservice⟩ := Responder.isRun_serve_iff.1 hrun
    refine ⟨⟨ended, rfl, hservice⟩, ?_, hservice.sends_eq⟩
    rintro ⟨⟩
    exact hservice.length_arrivals
  · obtain ⟨_, -, hservice⟩ := Responder.isRun_serve_iff.1 hrun
    obtain ⟨_, -, hothers⟩ := Responder.isRun_serve_iff.1 hother
    exact hservice.sends_eq_of_answered_eq hothers

/-- Of no bytes at all, a question of another client and two of its own, a responder answers the
last two, as it does when nothing else arrives. With 4096 name servers the answer that names them
does not come back, the other does. -/
theorem responder_answers_on_wire_many_servers :
    let lease : Lease :=
      { interface := "eth0", bridge := "br_eth0", tap := "vm_eth0"
        address := ⟨.ofBytes 172 17 0 2, 16, by decide⟩, gateway := none
        mac := ⟨⟨[2, 66, 172, 17, 0, 2], rfl⟩⟩, dns := []
        dns6 := List.replicate 4096 (.ofGroups [0xfd00, 0, 0, 0, 0, 0, 0, 0x53]) }
    let question (kindCode last : UInt8) : Message :=
      { kindCode, transaction := ⟨[7, 8, 9], rfl⟩
        options := [(1, [0, 3, 0, 1, 2, 66, 172, 17, 0, last]), (3, List.replicate 12 0)] }
    let client : Endpoint := ⟨.ofGroups [0xfe80], clientPort, 2⟩
    let own := [((question 1 2).encode, client), ((question 4 2).encode, client)]
    ∃ history other naming silent,
      ((responder lease).serve 4).attempt.IsRun history (some (.ok ())) ∧
      arrivals history = ([], client) :: ((question 1 9).encode, client) :: own ∧
      ((responder lease).serve 2).attempt.IsRun other (some (.ok ())) ∧
      arrivals other = own ∧
      sends history = [(Message.encode naming, client), (Message.encode silent, client)] ∧
      sends other = sends history ∧
      Message.decode naming.encode ≠ .ok naming ∧ Message.decode silent.encode = .ok silent := by
  intro lease question client own
  obtain ⟨hback, hanswers, -, hruns, hsame⟩ := responder_answers_on_wire lease
  have hdecode (kindCode last : UInt8) :
      Message.decode (question kindCode last).encode = .ok (question kindCode last) :=
    Message.decode_encode_iff_allShort.2 (by simp [question, AllShort])
  have hall (kindCode last : UInt8) :
      (question kindCode last).encode.take bufferSize = (question kindCode last).encode := by
    refine List.take_of_length_le ?_
    simp [question, Message.encode, encodeOptions, encodeOption, bytesOfWord16, bufferSize]
  have hfirst (kindCode last : UInt8) :
      IsFirst (question kindCode last).options 1 [0, 3, 0, 1, 2, 66, 172, 17, 0, last] :=
    ⟨[], _, rfl, by simp⟩
  have hclient : MayBeClient lease [0, 3, 0, 1, 2, 66, 172, 17, 0, 2] :=
    isForeign_eq_false_iff.1 (by decide)
  have hmany : lease.dns6.length = 4096 := List.length_replicate
  have hempty : (responder lease).answerTo ([], client) = none := rfl
  have hforeign : (responder lease).answerTo ((question 1 9).encode, client) = none := by
    refine Option.eq_none_iff_forall_ne_some.2 fun sent hsent ↦ ?_
    obtain ⟨request, reply, hrequest, hreply, -⟩ := (hanswers _ _ _).1 hsent
    rw [hall] at hrequest
    cases (hdecode 1 9).symm.trans hrequest
    obtain ⟨identity, hquestion⟩ := exists_respond_iff.1 ⟨reply, hreply⟩
    cases (hfirst 1 9).unique hquestion.first
    exact absurd (isForeign_eq_false_iff.2 hquestion.client) (by decide)
  have hown (kindCode : UInt8) (reply : Message)
      (hreply : respond lease (question kindCode 2) = some reply) :
      (responder lease).answerTo ((question kindCode 2).encode, client) =
        some (reply.encode, client) := by
    refine (hanswers _ _ _).2 ⟨_, reply, ?_, hreply, rfl⟩
    rw [hall]
    exact hdecode kindCode 2
  obtain ⟨naming, hnaming⟩ := exists_respond_iff.2
    ⟨_, hfirst 1 2, hclient, (by decide : (1 : UInt8) ∈ [1, 3, 4, 5, 6, 8])⟩
  obtain ⟨silent, hsilent⟩ := exists_respond_iff.2
    ⟨_, hfirst 4 2, hclient, (by decide : (4 : UInt8) ∈ [1, 3, 4, 5, 6, 8])⟩
  obtain ⟨history, hrun, harrivals⟩ := (responder lease).exists_isRun_serve
    (([], client) :: ((question 1 9).encode, client) :: own)
  obtain ⟨other, hother, hothers⟩ := (responder lease).exists_isRun_serve own
  have hanswered : (responder lease).answered (arrivals other) =
      (responder lease).answered (arrivals history) := by
    rw [harrivals, hothers]
    simp [Responder.answered, hempty, hforeign]
  refine ⟨history, other, naming, silent, hrun, harrivals, hother, hothers, ?_,
    hsame 2 other _ 4 history _ hother hrun hanswered, fun hreads ↦ ?_, ?_⟩
  · rw [(hruns 4 history _ hrun).2.2, harrivals]
    simp [own, hempty, hforeign, hown 1 naming hnaming, hown 4 silent hsilent]
  · obtain hfew | hkind | hkind := (hback _ _ _ (hdecode 1 2) hnaming).1 hreads
    · exact absurd (hmany ▸ hfew) (by decide)
    · exact absurd hkind (by decide)
    · exact absurd hkind (by decide)
  · exact (hback _ _ _ (hdecode 4 2) hsilent).2 (.inr (.inl rfl))

end MicroVm.Dhcp.V6
