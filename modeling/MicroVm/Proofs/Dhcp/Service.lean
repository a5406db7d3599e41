import Mathlib.Data.List.Basic
import MicroVm.Dhcp.Service
import MicroVm.Proofs.Program.Runs

/-!
# Runs of responders

A run of a responder is the making ready of its socket and then one exchange after another. An
exchange begins with a datagram and is decided by it: what there is of it in the buffer is the same
whatever the buffer held before. So what a run sends is, in order, what its datagrams are answered,
each on its own. A run ends when it has taken all its datagrams or when the socket fails, and in no
other way.
-/

namespace MicroVm.Dhcp

open MicroVm.Host MicroVm.Network

variable {Address : Type}

/-! ## What arrives and what is sent -/

/-- The datagram that arrives in an event, with its sender. -/
def arrival? : Event (Socket Address) → Option (List UInt8 × Address)
  | ⟨.receive, answer⟩ => Except.toOption (ε := SystemError) answer
  | _ => none

/-- The bytes that are sent in an event, with their destination. -/
def sent? : Event (Socket Address) → Option (List UInt8 × Address)
  | ⟨.send bytes destination, _⟩ => some (bytes, destination)
  | _ => none

/-- What arrives, in order. -/
def arrivals (history : History (Socket Address)) : List (List UInt8 × Address) :=
  history.filterMap arrival?

/-- What is sent, in order. -/
def sends (history : History (Socket Address)) : List (List UInt8 × Address) :=
  history.filterMap sent?

theorem arrivals_append (before after : History (Socket Address)) :
    arrivals (before ++ after) = arrivals before ++ arrivals after := List.filterMap_append

theorem sends_append (before after : History (Socket Address)) :
    sends (before ++ after) = sends before ++ sends after := List.filterMap_append

/-! ## Making the socket ready -/

/-- Steps that have succeeded. -/
def prepared (steps : List SocketStep) : History (Socket Address) :=
  steps.map fun step ↦ ⟨.prepare step, .ok ()⟩

theorem arrivals_prepared (steps : List SocketStep) :
    arrivals (prepared steps : History (Socket Address)) = [] := by
  induction steps with
  | nil => rfl
  | cons step steps ih => simp [arrivals, prepared, arrival?]

theorem sends_prepared (steps : List SocketStep) :
    sends (prepared steps : History (Socket Address)) = [] := by
  induction steps with
  | nil => rfl
  | cons step steps ih => simp [sends, prepared, sent?]

namespace Socket

variable {history : History (Socket Address)}

theorem isRun_prepare_iff {step : SocketStep} {result : Option (Except Failure Unit)} :
    (prepare step : Task (Socket Address) Unit).attempt.IsRun history result ↔
      (∃ value, history = [⟨.prepare step, .ok value⟩] ∧ result = some (.ok value)) ∨
      ∃ failure, (∃ inner, history = [⟨.prepare step, .error inner⟩] ∧
        failure = .within step.activity inner) ∧ result = some (.error failure) := by
  unfold prepare
  rw [Task.isRun_within_iff]
  constructor
  · rintro ⟨inner, hinner, rfl⟩
    obtain ⟨answer, rfl, rfl⟩ := Program.isRun_perform_iff.1 hinner
    cases answer with
    | ok value => exact .inl ⟨value, rfl, rfl⟩
    | error inner => exact .inr ⟨_, ⟨inner, rfl, rfl⟩, rfl⟩
  · rintro (⟨value, rfl, rfl⟩ | ⟨_, ⟨inner, rfl, rfl⟩, rfl⟩)
    · exact ⟨some (.ok value), Program.isRun_perform_iff.2 ⟨.ok value, rfl, rfl⟩, rfl⟩
    · exact ⟨some (.error inner), Program.isRun_perform_iff.2 ⟨.error inner, rfl, rfl⟩, rfl⟩

/-- A datagram is received with its sender, or the system reports an error. -/
theorem isRun_receive_iff {protocol : String}
    {result : Option (Except Failure (List UInt8 × Address))} :
    (receive protocol : Task (Socket Address) _).attempt.IsRun history result ↔
      (∃ arrival, history = [⟨.receive, .ok arrival⟩] ∧ result = some (.ok arrival)) ∨
      ∃ failure, (∃ error, history = [⟨.receive, .error error⟩] ∧
        failure = .within (.receiving protocol) (.system error)) ∧
        result = some (.error failure) := by
  unfold receive
  rw [Task.isRun_within_iff]
  constructor
  · rintro ⟨inner, hinner, rfl⟩
    obtain ⟨found, hfound, rfl⟩ := Task.isRun_ofSystem_iff.1 hinner
    obtain ⟨answer, rfl, rfl⟩ := Program.isRun_perform_iff.1 hfound
    cases answer with
    | ok arrival => exact .inl ⟨arrival, rfl, rfl⟩
    | error error => exact .inr ⟨_, ⟨error, rfl, rfl⟩, rfl⟩
  · have hreceive (answer : Except SystemError (List UInt8 × Address)) :
        (Task.ofSystem (Program.perform (I := Socket Address) .receive)).attempt.IsRun
          [⟨.receive, answer⟩] (some (answer.mapError .system)) :=
      Task.isRun_ofSystem_iff.2 ⟨_, Program.isRun_perform_iff.2 ⟨answer, rfl, rfl⟩, rfl⟩
    rintro (⟨arrival, rfl, rfl⟩ | ⟨_, ⟨error, rfl, rfl⟩, rfl⟩)
    · exact ⟨_, hreceive (.ok arrival), rfl⟩
    · exact ⟨_, hreceive (.error error), rfl⟩

theorem isRun_send_iff {bytes : List UInt8} {destination : Address}
    {result : Option (Except SystemError Unit)} :
    (send bytes destination).IsRun history result ↔
      ∃ answer, history = [⟨.send bytes destination, answer⟩] ∧ result = some answer :=
  Program.isRun_perform_iff

theorem isRun_warn_iff {destination : Address} {text : String} {result : Option Unit} :
    (warn destination text).IsRun history result ↔
      ∃ answer, history = [⟨.warn destination text, answer⟩] ∧ result = some answer :=
  Program.isRun_perform_iff

/-- Whether one of several steps can fail, with the events up to there and the failure. -/
inductive FailsIn : List SocketStep → History (Socket Address) → Failure → Prop
  | here (step : SocketStep) (later : List SocketStep) (inner : Failure) :
      FailsIn (step :: later) [⟨.prepare step, .error inner⟩] (.within step.activity inner)
  | later (step : SocketStep) {steps : List SocketStep} {history : History (Socket Address)}
      {failure : Failure} (hfails : FailsIn steps history failure) :
      FailsIn (step :: steps) (⟨.prepare step, .ok ()⟩ :: history) failure

theorem FailsIn.arrivals_eq_nil {steps : List SocketStep} {failure : Failure}
    (hfails : FailsIn steps history failure) : arrivals history = [] := by
  induction hfails with
  | here => rfl
  | later _ _ ih => exact ih

theorem FailsIn.sends_eq_nil {steps : List SocketStep} {failure : Failure}
    (hfails : FailsIn steps history failure) : sends history = [] := by
  induction hfails with
  | here => rfl
  | later _ _ ih => exact ih

/-- A socket is prepared step by step until one fails. -/
theorem isRun_prepareAll_iff {steps : List SocketStep} {result : Option (Except Failure Unit)} :
    (prepareAll steps : Task (Socket Address) Unit).attempt.IsRun history result ↔
      (∃ value, history = prepared steps ∧ result = some (.ok value)) ∨
      ∃ failure, FailsIn steps history failure ∧ result = some (.error failure) := by
  induction steps generalizing history with
  | nil =>
    constructor
    · intro hrun
      obtain ⟨rfl, rfl⟩ := Program.isRun_done_iff.1 hrun
      exact .inl ⟨(), rfl, rfl⟩
    · rintro (⟨_, rfl, rfl⟩ | ⟨_, hfails, -⟩)
      · exact .done _
      · cases hfails
  | cons step steps ih =>
    unfold prepareAll
    rw [Task.isRun_bind_iff_of_ends isRun_prepare_iff]
    simp only [ih]
    constructor
    · rintro (⟨_, _, after, rfl, rfl, ⟨_, rfl, rfl⟩ | ⟨failure, hfails, rfl⟩⟩ |
        ⟨_, ⟨inner, rfl, rfl⟩, rfl⟩)
      · exact .inl ⟨(), rfl, rfl⟩
      · exact .inr ⟨failure, .later step hfails, rfl⟩
      · exact .inr ⟨_, .here step steps inner, rfl⟩
    · rintro (⟨_, rfl, rfl⟩ | ⟨_, hfails, rfl⟩)
      · exact .inl ⟨(), [⟨.prepare step, .ok ()⟩], prepared steps, rfl, rfl, .inl ⟨(), rfl, rfl⟩⟩
      · cases hfails with
        | here _ _ inner => exact .inr ⟨_, ⟨inner, rfl, rfl⟩, rfl⟩
        | later _ hlater => exact .inl ⟨(), [⟨.prepare step, .ok ()⟩], _, rfl, rfl,
            .inr ⟨_, hlater, rfl⟩⟩

end Socket

/-! ## Exchanges -/

/-- The part of a datagram that the buffer has room for is what is seen of it, whatever the buffer
held before. -/
theorem take_fill {size : Nat} (buffer : Octets size) (datagram : List UInt8) :
    (fill buffer datagram).bytes.take (min datagram.length size) = datagram.take size := by
  have hlength : (datagram.take size).length = min datagram.length size := by
    rw [List.length_take, Nat.min_comm]
  rw [fill, ← hlength, List.take_left]

namespace Responder

variable {responder : Responder Address} {history : History (Socket Address)}

/-- What happens after something was received from a sender: nothing, when there is no answer to
it, or else the answer is sent. When that fails, the operator is told. -/
inductive IsReply (responder : Responder Address) (received : List UInt8) (sender : Address) :
    History (Socket Address) → Prop
  | dropped (hanswer : responder.answer received sender = none) :
      IsReply responder received sender []
  | sent {bytes : List UInt8} {destination : Address}
      (hanswer : responder.answer received sender = some (bytes, destination)) :
      IsReply responder received sender [⟨.send bytes destination, .ok ()⟩]
  | unsent {bytes : List UInt8} {destination : Address} (error : SystemError)
      (hanswer : responder.answer received sender = some (bytes, destination)) :
      IsReply responder received sender [⟨.send bytes destination, .error error⟩,
        ⟨.warn destination s!"failed to send {responder.protocol} reply: {error.message}", ()⟩]

/-- Replying sends or drops the answer and does not fail. -/
theorem isRun_reply_iff {received : List UInt8} {sender : Address} {result : Option Unit} :
    (responder.reply received sender).IsRun history result ↔
      responder.IsReply received sender history ∧ result = some () := by
  unfold reply
  cases hanswer : responder.answer received sender with
  | none =>
    constructor
    · intro hrun
      obtain ⟨rfl, rfl⟩ := Program.isRun_done_iff.1 hrun
      exact ⟨.dropped hanswer, rfl⟩
    · rintro ⟨hreply, rfl⟩
      cases hreply with
      | dropped => exact .done ()
      | sent hsome => simp [hanswer] at hsome
      | unsent error hsome => simp [hanswer] at hsome
  | some found =>
    obtain ⟨bytes, destination⟩ := found
    constructor
    · intro hrun
      obtain ⟨answer, before, after, rfl, hbefore, hafter⟩ | ⟨hcrash, -⟩ :=
        Program.isRun_bind_iff.1 hrun
      · obtain ⟨_, rfl, hanswered⟩ := Socket.isRun_send_iff.1 hbefore
        cases hanswered
        cases answer with
        | ok _ =>
          obtain ⟨rfl, rfl⟩ := Program.isRun_done_iff.1 hafter
          exact ⟨.sent hanswer, rfl⟩
        | error error =>
          obtain ⟨_, rfl, rfl⟩ := Socket.isRun_warn_iff.1 hafter
          exact ⟨.unsent error hanswer, rfl⟩
      · obtain ⟨_, -, hnone⟩ := Socket.isRun_send_iff.1 hcrash
        cases hnone
    · rintro ⟨hreply, rfl⟩
      have hsend (answer : Except SystemError Unit) :
          (Socket.send bytes destination).IsRun [⟨.send bytes destination, answer⟩] (some answer) :=
        Socket.isRun_send_iff.2 ⟨answer, rfl, rfl⟩
      cases hreply with
      | dropped hnone => simp [hanswer] at hnone
      | sent hsome =>
        rw [hanswer] at hsome
        cases hsome
        exact (hsend (.ok ())).bind (.done ())
      | unsent error hsome =>
        rw [hanswer] at hsome
        cases hsome
        exact (hsend (.error error)).bind (Socket.isRun_warn_iff.2 ⟨(), rfl, rfl⟩)

/-- Whether a responder can take datagrams with the events of a history, and how that ends. -/
inductive Serves (responder : Responder Address) :
    Nat → History (Socket Address) → Except Failure Unit → Prop
  | done : Serves responder 0 [] (.ok ())
  | failed (count : Nat) (error : SystemError) :
      Serves responder (count + 1) [⟨.receive, .error error⟩]
        (.error (.within (.receiving responder.protocol) (.system error)))
  | exchange {count : Nat} {datagram : List UInt8} {sender : Address}
      {replied history : History (Socket Address)} {ended : Except Failure Unit}
      (hreply : responder.IsReply (datagram.take bufferSize) sender replied)
      (hrest : Serves responder count history ended) :
      Serves responder (count + 1)
        (⟨.receive, .ok (datagram, sender)⟩ :: (replied ++ history)) ended

theorem isRun_round_iff {buffer : Octets bufferSize}
    {result : Option (Except Failure (Octets bufferSize))} :
    (responder.round buffer).attempt.IsRun history result ↔
      (∃ filled, (∃ datagram sender replied,
        responder.IsReply (datagram.take bufferSize) sender replied ∧
        history = ⟨.receive, .ok (datagram, sender)⟩ :: replied ∧ filled = fill buffer datagram) ∧
        result = some (.ok filled)) ∨
      ∃ failure, (∃ error, history = [⟨.receive, .error error⟩] ∧
        failure = .within (.receiving responder.protocol) (.system error)) ∧
        result = some (.error failure) := by
  unfold round
  rw [Task.isRun_bind_iff_of_ends Socket.isRun_receive_iff]
  simp only [take_fill]
  refine or_congr_left ?_
  constructor
  · rintro ⟨⟨datagram, sender⟩, _, after, rfl, rfl, hafter⟩
    obtain ⟨_, replied, rest, rfl, hreplied, hrest⟩ | ⟨hcrash, -⟩ :=
      Task.isRun_liftM_bind_iff.1 hafter
    · obtain ⟨rfl, rfl⟩ := Program.isRun_done_iff.1 hrest
      obtain ⟨hreply, -⟩ := isRun_reply_iff.1 hreplied
      exact ⟨_, ⟨datagram, sender, replied, hreply, by simp, rfl⟩, rfl⟩
    · obtain ⟨-, hother⟩ := isRun_reply_iff.1 hcrash
      cases hother
  · rintro ⟨_, ⟨datagram, sender, replied, hreply, rfl, rfl⟩, rfl⟩
    refine ⟨(datagram, sender), [⟨.receive, .ok (datagram, sender)⟩], replied, rfl, rfl, ?_⟩
    rw [← List.append_nil replied]
    exact Task.isRun_liftM_bind (isRun_reply_iff.2 ⟨hreply, rfl⟩) (.done _)

/-- The runs over a number of datagrams are one exchange after another, whatever the buffer holds at
their beginning. -/
theorem isRun_rounds_iff {count : Nat} {buffer : Octets bufferSize}
    {result : Option (Except Failure Unit)} :
    (responder.rounds count buffer).attempt.IsRun history result ↔
      ∃ ended, result = some ended ∧ responder.Serves count history ended := by
  -- Each round leaves another buffer, so the induction is over all of them.
  induction count generalizing buffer history with
  | zero =>
    constructor
    · intro hrun
      obtain ⟨rfl, rfl⟩ := Program.isRun_done_iff.1 hrun
      exact ⟨_, rfl, .done⟩
    · rintro ⟨_, rfl, hserves⟩
      cases hserves
      exact .done _
  | succ count ih =>
    unfold rounds
    rw [Task.isRun_bind_iff_of_ends isRun_round_iff]
    simp only [ih]
    constructor
    · rintro (⟨_, _, after, rfl, ⟨datagram, sender, replied, hreply, rfl, rfl⟩, ended, rfl, hrest⟩ |
        ⟨_, ⟨error, rfl, rfl⟩, rfl⟩)
      · exact ⟨ended, rfl, .exchange hreply hrest⟩
      · exact ⟨_, rfl, .failed count error⟩
    · rintro ⟨ended, rfl, hserves⟩
      cases hserves with
      | failed _ error => exact .inr ⟨_, ⟨error, rfl, rfl⟩, rfl⟩
      | @exchange _ datagram sender replied history _ hreply hrest =>
        exact .inl ⟨fill buffer datagram, ⟨.receive, .ok (datagram, sender)⟩ :: replied, history,
          rfl, ⟨datagram, sender, replied, hreply, rfl, rfl⟩, ended, rfl, hrest⟩

/-! ## Services -/

/-- How a responder can serve: a step of making its socket ready fails, or it takes datagrams. -/
inductive IsService (responder : Responder Address) (count : Nat) :
    History (Socket Address) → Except Failure Unit → Prop
  | unready {history : History (Socket Address)} {failure : Failure}
      (hfails : Socket.FailsIn responder.steps history failure) :
      IsService responder count history (.error failure)
  | ready {history : History (Socket Address)} {ended : Except Failure Unit}
      (hserves : responder.Serves count history ended) :
      IsService responder count (prepared responder.steps ++ history) ended

theorem isRun_serve_iff {count : Nat} {result : Option (Except Failure Unit)} :
    (responder.serve count).attempt.IsRun history result ↔
      ∃ ended, result = some ended ∧ responder.IsService count history ended := by
  unfold serve
  rw [Task.isRun_bind_iff_of_ends Socket.isRun_prepareAll_iff]
  simp only [isRun_rounds_iff]
  constructor
  · rintro (⟨_, _, after, rfl, rfl, ended, rfl, hserves⟩ | ⟨failure, hfails, rfl⟩)
    · exact ⟨ended, rfl, .ready hserves⟩
    · exact ⟨_, rfl, .unready hfails⟩
  · rintro ⟨ended, rfl, hservice⟩
    cases hservice with
    | unready hfails => exact .inr ⟨_, hfails, rfl⟩
    | ready hserves => exact .inl ⟨(), _, _, rfl, rfl, ended, rfl, hserves⟩

/-! ## What is sent -/

section

variable {received : List UInt8} {sender : Address} {count : Nat} {ended : Except Failure Unit}

theorem IsReply.arrivals_eq_nil (hreply : responder.IsReply received sender history) :
    arrivals history = [] := by
  cases hreply <;> rfl

/-- The reply to a datagram sends its answer, if it has one. -/
theorem IsReply.sends_eq (hreply : responder.IsReply received sender history) :
    sends history = (responder.answer received sender).toList := by
  cases hreply with
  | dropped hanswer => rw [hanswer]; rfl
  | sent hanswer => rw [hanswer]; rfl
  | unsent error hanswer => rw [hanswer]; rfl

theorem exists_isReply (responder : Responder Address) (received : List UInt8) (sender : Address) :
    ∃ history, responder.IsReply received sender history := by
  cases hanswer : responder.answer received sender with
  | none => exact ⟨_, .dropped hanswer⟩
  | some found => exact ⟨_, .sent hanswer⟩

/-- What a responder answers to a datagram that arrives from a sender. It sees no more of it than
the buffer has room for. -/
def answerTo (responder : Responder Address) (arrival : List UInt8 × Address) :
    Option (List UInt8 × Address) :=
  responder.answer (arrival.1.take bufferSize) arrival.2

/-- The answers to the datagrams are sent in the order in which these arrived. -/
theorem Serves.sends_eq (hserves : responder.Serves count history ended) :
    sends history = (arrivals history).filterMap responder.answerTo := by
  rw [List.filterMap_eq_flatMap_toList]
  induction hserves with
  | done => rfl
  | failed => rfl
  | @exchange count datagram sender replied history ended hreply _ ih =>
    calc
      _ = sends replied ++ sends history := sends_append replied history
      _ = (responder.answerTo (datagram, sender)).toList ++ sends history := by
        rw [hreply.sends_eq, answerTo]
      _ = ((datagram, sender) :: arrivals (replied ++ history)).flatMap _ := by
        rw [arrivals_append, hreply.arrivals_eq_nil, List.nil_append, List.flatMap_cons, ih]

/-- A responder that has served its number of datagrams has received as many. -/
theorem Serves.length_arrivals (hserves : responder.Serves count history (.ok ())) :
    (arrivals history).length = count := by
  generalize hended : Except.ok () = ended at hserves
  induction hserves with
  | done => rfl
  | failed => cases hended
  | @exchange count datagram sender replied history ended hreply _ ih =>
    calc
      _ = (arrivals (replied ++ history)).length + 1 := rfl
      _ = count + 1 := by
        rw [arrivals_append, hreply.arrivals_eq_nil, List.nil_append, ih hended]

/-- Any datagrams can arrive and be served. -/
theorem exists_serves (responder : Responder Address) (datagrams : List (List UInt8 × Address)) :
    ∃ history, responder.Serves datagrams.length history (.ok ()) ∧
      arrivals history = datagrams := by
  induction datagrams with
  | nil => exact ⟨[], .done, rfl⟩
  | cons arrival datagrams ih =>
    obtain ⟨history, hserves, harrivals⟩ := ih
    obtain ⟨replied, hreply⟩ :=
      responder.exists_isReply (arrival.1.take bufferSize) arrival.2
    refine ⟨_, .exchange hreply hserves, ?_⟩
    calc
      _ = arrival :: arrivals (replied ++ history) := rfl
      _ = arrival :: datagrams := by
        rw [arrivals_append, hreply.arrivals_eq_nil, List.nil_append, harrivals]

/-- A run that ends well has taken all its datagrams. -/
theorem IsService.length_arrivals (hservice : responder.IsService count history (.ok ())) :
    (arrivals history).length = count := by
  cases hservice with
  | ready hserves =>
    rw [arrivals_append, arrivals_prepared, List.nil_append]
    exact hserves.length_arrivals

/-- What a run sends are the answers to what arrives in it, each to one datagram on its own. -/
theorem IsService.sends_eq (hservice : responder.IsService count history ended) :
    sends history = (arrivals history).filterMap responder.answerTo := by
  cases hservice with
  | unready hfails => rw [hfails.sends_eq_nil, hfails.arrivals_eq_nil, List.filterMap_nil]
  | ready hserves =>
    rw [sends_append, arrivals_append, sends_prepared, arrivals_prepared]
    exact hserves.sends_eq

/-- Those of several datagrams that are answered, in order. -/
def answered (responder : Responder Address) (datagrams : List (List UInt8 × Address)) :
    List (List UInt8 × Address) :=
  datagrams.filter fun arrival ↦ (responder.answerTo arrival).isSome

/-- Datagrams without an answer can be left out. -/
theorem filterMap_answered (responder : Responder Address)
    (datagrams : List (List UInt8 × Address)) :
    (responder.answered datagrams).filterMap responder.answerTo =
      datagrams.filterMap responder.answerTo := by
  rw [answered, List.filterMap_filter]
  congr
  ext arrival
  cases hanswer : responder.answerTo arrival <;> simp

/-- Datagrams that are not answered leave no trace in what is sent. -/
theorem IsService.sends_eq_of_answered_eq {other : History (Socket Address)} {another : Nat}
    {finished : Except Failure Unit} (hservice : responder.IsService count history ended)
    (hother : responder.IsService another other finished)
    (hsame : responder.answered (arrivals history) = responder.answered (arrivals other)) :
    sends history = sends other := by
  calc
    sends history = (responder.answered (arrivals history)).filterMap responder.answerTo := by
      rw [filterMap_answered, hservice.sends_eq]
    _ = (responder.answered (arrivals other)).filterMap responder.answerTo := by rw [hsame]
    _ = sends other := by rw [filterMap_answered, hother.sends_eq]

/-- Any datagrams can arrive. -/
theorem exists_isRun_serve (responder : Responder Address)
    (datagrams : List (List UInt8 × Address)) :
    ∃ history, (responder.serve datagrams.length).attempt.IsRun history (some (.ok ())) ∧
      arrivals history = datagrams := by
  obtain ⟨history, hserves, harrivals⟩ := responder.exists_serves datagrams
  refine ⟨_, isRun_serve_iff.2 ⟨_, rfl, .ready hserves⟩, ?_⟩
  rw [arrivals_append, arrivals_prepared, harrivals, List.nil_append]

end

end Responder

end MicroVm.Dhcp
