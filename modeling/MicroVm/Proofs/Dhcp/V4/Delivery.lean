import MicroVm.Proofs.Dhcp.Service
import MicroVm.Proofs.Dhcp.V4.Answers
import MicroVm.Proofs.Dhcp.V4.Decoding

/-!
# From datagram to datagram

Reading, answering and writing are put together here, as a responder does it with each datagram. It
answers the bytes of a question of its client and nothing else. A client that joins the values of
each code gets from the bytes that are sent what the answer says, however long a value is: a list of
name servers that has to be cut in two arrives whole.
-/

namespace MicroVm.Dhcp.V4

open MicroVm.Network

/-! ## Questions as bytes -/

/-- Whether bytes are a question from the client of a lease. -/
structure IsQuestionIn (lease : Lease) (bytes : List UInt8) : Prop where
  op : bytes[0]? = some 1
  hardwareKind : bytes[1]? = some 1
  hardwareLength : bytes[2]? = some 6
  mac : slice bytes 28 34 = lease.mac.octets.bytes
  kind : ∃ packet, Packet.decode bytes = .ok packet ∧
    (IsFirst packet.options 53 [1] ∨ IsFirst packet.options 53 [3])

theorem slice_eq_singleton_iff {bytes : List UInt8} {place : Nat} {byte : UInt8} :
    slice bytes place (place + 1) = [byte] ↔ bytes[place]? = some byte := by
  unfold slice
  rw [Nat.add_sub_cancel_left, List.take_one, List.head?_drop]
  cases bytes[place]? <;> simp

theorem slice_hardwareAddress {bytes : List UInt8} {packet : Packet}
    (hfields : HasFields bytes packet) :
    slice bytes 28 34 = packet.hardwareAddress.bytes.take 6 := by
  rw [← hfields.hardwareAddress]
  simp [slice, List.take_take]

/-- The bytes of a packet show whether it is a question. -/
theorem isQuestion_iff_of_decode {lease : Lease} {bytes : List UInt8} {packet : Packet}
    {kind : UInt8} (hdecode : Packet.decode bytes = .ok packet) :
    IsQuestion lease packet kind ↔ bytes[0]? = some 1 ∧ bytes[1]? = some 1 ∧
      bytes[2]? = some 6 ∧ slice bytes 28 34 = lease.mac.octets.bytes ∧
      IsFirst packet.options 53 [kind] := by
  have hfields := (Packet.decode_eq_ok_iff_isPacket.1 hdecode).fields
  have hop : bytes[0]? = some packet.op := slice_eq_singleton_iff.1 hfields.op
  have hkind : bytes[1]? = some packet.hardwareKind :=
    slice_eq_singleton_iff.1 hfields.hardwareKind
  have hlength : bytes[2]? = some packet.hardwareLength :=
    slice_eq_singleton_iff.1 hfields.hardwareLength
  rw [hop, hkind, hlength, slice_hardwareAddress hfields]
  simp only [Option.some.injEq]
  constructor
  · rintro ⟨hop, hfirst, hkind, hlength, hmac⟩
    exact ⟨hop, hkind, hlength, hmac, hfirst⟩
  · rintro ⟨hop, hkind, hlength, hmac, hfirst⟩
    exact ⟨hop, hfirst, hkind, hlength, hmac⟩

theorem isQuestionIn_iff {lease : Lease} {bytes : List UInt8} :
    IsQuestionIn lease bytes ↔ ∃ packet, Packet.decode bytes = .ok packet ∧
      (IsQuestion lease packet 1 ∨ IsQuestion lease packet 3) := by
  constructor
  · rintro ⟨hop, hkind, hlength, hmac, packet, hdecode, hfirst⟩
    refine ⟨packet, hdecode, ?_⟩
    rw [isQuestion_iff_of_decode hdecode, isQuestion_iff_of_decode hdecode]
    exact hfirst.imp (fun h ↦ ⟨hop, hkind, hlength, hmac, h⟩) fun h ↦ ⟨hop, hkind, hlength, hmac, h⟩
  · rintro ⟨packet, hdecode, hquestion⟩
    rw [isQuestion_iff_of_decode hdecode, isQuestion_iff_of_decode hdecode] at hquestion
    obtain ⟨hop, hkind, hlength, hmac, hfirst⟩ | ⟨hop, hkind, hlength, hmac, hfirst⟩ := hquestion
    · exact ⟨hop, hkind, hlength, hmac, packet, hdecode, .inl hfirst⟩
    · exact ⟨hop, hkind, hlength, hmac, packet, hdecode, .inr hfirst⟩

/-! ## What the client gets -/

theorem joinedValue_cons (entry : Entry) (options : List Entry) (code : UInt8) :
    joinedValue (entry :: options) code =
      (if entry.1 = code then entry.2 else []) ++ joinedValue options code := by
  by_cases hcode : entry.1 = code <;> simp [joinedValue, hcode]

theorem joinedValue_eq_nil {options : List Entry} {code : UInt8}
    (hnone : code ∉ options.map Prod.fst) : joinedValue options code = [] := by
  induction options with
  | nil => rfl
  | cons entry options ih =>
    obtain ⟨hentry, hoptions⟩ := List.ne_and_not_mem_of_not_mem_cons hnone
    rw [joinedValue_cons, if_neg (Ne.symm hentry), ih hoptions, List.nil_append]

/-- When no code occurs twice, the value of an option is all that is given for its code. -/
theorem joinedValue_of_mem {options : List Entry} {entry : Entry}
    (hnodup : (options.map Prod.fst).Nodup) (hmem : entry ∈ options) :
    joinedValue options entry.1 = entry.2 := by
  induction options with
  | nil => cases hmem
  | cons first options ih =>
    obtain ⟨hfirst, hoptions⟩ := List.nodup_cons.1 hnodup
    rw [joinedValue_cons]
    obtain rfl | hlater := List.mem_cons.1 hmem
    · rw [if_pos rfl, joinedValue_eq_nil hfirst, List.append_nil]
    · have hother : first.1 ≠ entry.1 := by
        intro hsame
        exact hfirst (hsame ▸ List.mem_map_of_mem hlater)
      rw [if_neg hother, List.nil_append, ih hoptions hlater]

theorem Packet.joinedValue_eq_option? {packet : Packet}
    (hnodup : (packet.options.map Prod.fst).Nodup) (code : UInt8) :
    joinedValue packet.options code = (packet.option? code).getD [] := by
  cases hoption : packet.option? code with
  | none =>
    refine joinedValue_eq_nil fun hmem ↦ ?_
    obtain ⟨entry, hentry, hcode⟩ := List.mem_map.1 hmem
    simp only [option?, Option.map_eq_none_iff, List.find?_eq_none] at hoption
    exact hoption entry hentry (beq_iff_eq.2 hcode)
  | some value =>
    obtain ⟨before, after, hoptions, -⟩ := option?_eq_some_iff.1 hoption
    have hmem : (code, value) ∈ packet.options := by simp [hoptions]
    exact joinedValue_of_mem hnodup hmem

/-- Whether a client that has got a packet knows what the answer to its request says. -/
structure Delivers (lease : Lease) (request reply received : Packet) : Prop where
  fields : received = { reply with options := received.options }
  values : ∀ code, joinedValue received.options code = (reply.option? code).getD []
  offers : ∀ asked, AsksFor request asked → ∀ entry, Offers lease entry → entry.1 ∈ asked →
    joinedValue received.options entry.1 = entry.2

namespace IsAnswer

variable {lease : Lease} {request reply : Packet} {kind : UInt8}

theorem isOptionCode (hreply : IsAnswer lease request reply kind) :
    ∀ entry ∈ reply.options, IsOptionCode entry.1 := by
  obtain ⟨asked, chosen, -, hchosen, hoptions⟩ := hreply.options
  have hcodes : ∀ code ∈ ([53, 54, 51, 1, 3, 6] : List UInt8), IsOptionCode code := by
    simp [IsOptionCode]
  intro entry hentry
  rw [hoptions, List.mem_append] at hentry
  refine hcodes entry.1 ?_
  obtain hhead | hentry := hentry
  · simp only [List.mem_cons, List.not_mem_nil, or_false] at hhead
    obtain rfl | rfl | rfl := hhead <;> simp
  · obtain ⟨-, hoffers⟩ := (hchosen.mem_iff entry).1 hentry
    cases hoffers <;> simp

theorem mem_of_offers (hreply : IsAnswer lease request reply kind) {asked : List UInt8}
    (hasks : AsksFor request asked) {entry : Entry} (hoffers : Offers lease entry)
    (hasked : entry.1 ∈ asked) : entry ∈ reply.options := by
  obtain ⟨codes, chosen, hcodes, hchosen, hoptions⟩ := hreply.options
  obtain rfl := hcodes.unique hasks
  rw [hoptions]
  exact List.mem_append_right _ ((hchosen.mem_iff entry).2 ⟨hasked, hoffers⟩)

/-- The bytes of an answer deliver it. -/
theorem exists_delivers (hreply : IsAnswer lease request reply kind) :
    ∃ received, Packet.decode reply.encode = .ok received ∧
      Delivers lease request reply received := by
  -- What is read are the pieces of the values, and pieces give the same joined values.
  refine ⟨_, Packet.decode_encode_of_codes hreply.isOptionCode, rfl, fun code ↦ ?_,
    fun asked hasks entry hoffers hasked ↦ ?_⟩
  · rw [(isCutInto_iff.2 rfl).joinedValue_eq code]
    exact Packet.joinedValue_eq_option? hreply.nodup_codes code
  · rw [(isCutInto_iff.2 rfl).joinedValue_eq entry.1]
    exact joinedValue_of_mem hreply.nodup_codes (hreply.mem_of_offers hasks hoffers hasked)

end IsAnswer

/-! ## What a responder does with a datagram -/

theorem answer_eq_some_iff {lease : Lease} {bytes sent : List UInt8}
    {sender target : Endpoint} :
    (responder lease).answer bytes sender = some (sent, target) ↔
      ∃ request reply, Packet.decode bytes = .ok request ∧ respond lease request = some reply ∧
        sent = reply.encode ∧ target = destination request := by
  simp only [responder, serve]
  cases hdecode : Packet.decode bytes with
  | error fault => simp
  | ok request =>
    cases hreply : respond lease request with
    | none => simp [hreply]
    | some reply =>
      simp only [Option.some.injEq, Prod.mk.injEq, Except.ok.injEq, exists_and_left,
        exists_eq_left', hreply]
      constructor
      · rintro ⟨rfl, rfl⟩
        exact ⟨rfl, rfl⟩
      · rintro ⟨rfl, rfl⟩
        exact ⟨rfl, rfl⟩

/-- A responder answers the questions of its client. -/
theorem exists_answer_iff {lease : Lease} {bytes : List UInt8} {sender : Endpoint} :
    (∃ sent, (responder lease).answer bytes sender = some sent) ↔ IsQuestionIn lease bytes := by
  rw [isQuestionIn_iff]
  constructor
  · rintro ⟨⟨sent, target⟩, hanswer⟩
    obtain ⟨request, reply, hdecode, hreply, -, -⟩ := answer_eq_some_iff.1 hanswer
    exact ⟨request, hdecode, exists_respond_iff.1 ⟨reply, hreply⟩⟩
  · rintro ⟨request, hdecode, hquestion⟩
    obtain ⟨reply, hreply⟩ := exists_respond_iff.2 hquestion
    exact ⟨_, answer_eq_some_iff.2 ⟨request, reply, hdecode, hreply, rfl, rfl⟩⟩

theorem exists_delivers_of_answer {lease : Lease} {bytes sent : List UInt8}
    {sender target : Endpoint}
    (hanswer : (responder lease).answer bytes sender = some (sent, target)) :
    ∃ request reply received, Packet.decode bytes = .ok request ∧
      respond lease request = some reply ∧ target = destination request ∧
      Packet.decode sent = .ok received ∧ Delivers lease request reply received := by
  obtain ⟨request, reply, hdecode, hreply, rfl, htarget⟩ := answer_eq_some_iff.1 hanswer
  obtain ⟨kind, hanswered⟩ := exists_isAnswer hreply
  obtain ⟨received, hreceived, hdelivers⟩ := hanswered.exists_delivers
  exact ⟨request, reply, received, hdecode, hreply, htarget, hreceived, hdelivers⟩

/-- In each of its runs a responder sends the answers to what arrives, each to one datagram on its
own, and nothing else. Of a datagram it receives the first 1500 bytes, and it answers them when they
are a question of its client. What it sends is read by the client as the answer, with whole
values. -/
theorem responder_delivers (lease : Lease) :
    (∀ count history result, ((responder lease).serve count).attempt.IsRun history result →
      (∃ ended, result = some ended ∧ (responder lease).IsService count history ended) ∧
      (result = some (.ok ()) → (arrivals history).length = count) ∧
      sends history = (arrivals history).filterMap (responder lease).answerTo) ∧
    (∀ datagram sender, (∃ sent, (responder lease).answerTo (datagram, sender) = some sent) ↔
      IsQuestionIn lease (datagram.take bufferSize)) ∧
    (∀ bytes sender, (∃ sent, (responder lease).answer bytes sender = some sent) ↔
      IsQuestionIn lease bytes) ∧
    ∀ bytes sender sent target, (responder lease).answer bytes sender = some (sent, target) →
      ∃ request reply received, Packet.decode bytes = .ok request ∧
        respond lease request = some reply ∧ target = destination request ∧
        Packet.decode sent = .ok received ∧ Delivers lease request reply received := by
  refine ⟨fun count history result hrun ↦ ?_, fun _ _ ↦ exists_answer_iff,
    fun _ _ ↦ exists_answer_iff, fun _ _ _ _ ↦ exists_delivers_of_answer⟩
  obtain ⟨ended, rfl, hservice⟩ := Responder.isRun_serve_iff.1 hrun
  refine ⟨⟨ended, rfl, hservice⟩, ?_, hservice.sends_eq⟩
  rintro ⟨⟩
  exact hservice.length_arrivals

/-- Of no bytes at all, a question of another client and one of its own, a responder answers the
last, and the client gets all of 64 name servers. -/
theorem responder_delivers_many_servers :
    let lease : Lease :=
      { interface := "eth0", bridge := "br_eth0", tap := "vm_eth0"
        address := ⟨.ofBytes 172 17 0 2, 16, by decide⟩, gateway := none
        mac := ⟨⟨[2, 66, 172, 17, 0, 2], rfl⟩⟩
        dns := List.replicate 64 (.ofBytes 8 8 8 8), dns6 := [] }
    let question (last : UInt8) : Packet :=
      { op := 1, hardwareKind := 1, hardwareLength := 6, hops := 0, transaction := 0x12345678
        seconds := 0, flags := 0x8000, clientAddress := .unspecified, yourAddress := .unspecified
        serverAddress := .unspecified, relayAddress := .unspecified
        hardwareAddress := .padded 16 [2, 66, 172, 17, 0, last]
        options := [(53, [1]), (55, [6])] }
    let unused : Octets unusedLength := .zero unusedLength
    let bytes (last : UInt8) : List UInt8 := (question last).encodeFields ++
      (unused.bytes ++ (magicCookie ++ [53, 1, 1, 55, 1, 6, 255]))
    let client : Endpoint := ⟨.unspecified, clientPort⟩
    ∃ history sent received,
      ((responder lease).serve 3).attempt.IsRun history (some (.ok ())) ∧
      arrivals history = [([], client), (bytes 9, client), (bytes 2, client)] ∧
      sends history = [(sent, ⟨.broadcast, clientPort⟩)] ∧
      Packet.decode sent = .ok received ∧
      joinedValue received.options 6 = (List.replicate 64 [8, 8, 8, 8]).flatten := by
  intro lease question unused bytes client
  have hasked : Spells ([55, 1] ++ ([6] ++ [255])) [(55, [6])] :=
    .option (by decide) rfl (.last [])
  have hspells (last : UInt8) :
      Spells ([53, 1] ++ ([1] ++ [55, 1, 6, 255])) (question last).options :=
    .option (by decide) rfl hasked
  have hpacket (last : UInt8) : IsPacket (bytes last) (question last) :=
    Packet.isPacket_append unused (hspells last)
  have hall (last : UInt8) : (bytes last).take bufferSize = bytes last := by
    refine List.take_of_length_le ?_
    simp [bytes, Packet.length_encodeFields, unused.length_bytes, fieldsLength, unusedLength,
      magicCookie, bufferSize]
  obtain ⟨hruns, hreceived, hanswers, hdelivers⟩ := responder_delivers lease
  have hnone {others : List UInt8} (hothers : ¬ IsQuestionIn lease (others.take bufferSize)) :
      (responder lease).answerTo (others, client) = none := by
    refine Option.eq_none_iff_forall_ne_some.2 fun sent hsent ↦ ?_
    exact hothers ((hreceived others client).1 ⟨sent, hsent⟩)
  have hempty : ¬ IsQuestionIn lease ([].take bufferSize) := by
    intro hquestion
    simpa using hquestion.op
  have hforeign : ¬ IsQuestionIn lease ((bytes 9).take bufferSize) := by
    intro hquestion
    rw [hall] at hquestion
    have hmac := hquestion.mac
    rw [slice_hardwareAddress (hpacket 9).fields] at hmac
    exact absurd hmac (by decide)
  have hown : IsQuestionIn lease (bytes 2) :=
    isQuestionIn_iff.2 ⟨question 2, Packet.decode_of_isPacket (hpacket 2),
      .inl ⟨rfl, ⟨[], _, rfl, by simp⟩, rfl, rfl, rfl⟩⟩
  obtain ⟨⟨sent, target⟩, hsent⟩ := (hanswers (bytes 2) client).2 hown
  obtain ⟨request, reply, received, hdecode, hreply, rfl, hdecoded, hreads⟩ :=
    hdelivers _ _ _ _ hsent
  obtain rfl : request = question 2 :=
    Except.ok.inj (hdecode.symm.trans (Packet.decode_of_isPacket (hpacket 2)))
  obtain ⟨history, hrun, harrivals⟩ := (responder lease).exists_isRun_serve
    [([], client), (bytes 9, client), (bytes 2, client)]
  have htarget : destination (question 2) = ⟨.broadcast, clientPort⟩ := rfl
  refine ⟨history, sent, received, hrun, harrivals, ?_, hdecoded, ?_⟩
  · have hanswered : (responder lease).answerTo (bytes 2, client) =
        some (sent, destination (question 2)) := by
      rw [Responder.answerTo, hall, hsent]
    rw [(hruns 3 history _ hrun).2.2, harrivals]
    simp [hnone hempty, hnone hforeign, hanswered, htarget]
  · have hcodes : AsksFor (question 2) [6] :=
      .listed ⟨[(53, [1])], [], rfl, by simp⟩ (List.cons_ne_nil _ _)
    exact hreads.offers [6] hcodes _ (.servers (by decide)) List.mem_cons_self

end MicroVm.Dhcp.V4
