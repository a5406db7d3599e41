import Mathlib.Data.List.Infix
import MicroVm.Proofs.Program.Conduct

/-!
# Requests of programs under way

A program that is under way is known by its events so far and by what is left of it. What it asks
next may depend on all that it was answered, so a kind of requests is one that sees the events so
far. A program asks within a kind when each of its requests is of the kind, whatever it is answered,
and when it does not crash.
-/

namespace MicroVm

variable {I : Interface} {α β σ : Type}

namespace Program

/-! ## What is left of a program -/

/-- Whether a program leaves a rest after the events of a history. -/
inductive Leaves : Program I α → History I → Program I α → Prop
  | nil (program : Program I α) : Leaves program [] program
  | cons {request : I.Request} {next : I.Answer request → Program I α} {history : History I}
      {rest : Program I α} (answer : I.Answer request) (later : Leaves (next answer) history rest) :
      Leaves (.ask request next) (⟨request, answer⟩ :: history) rest

section Leaves

variable {program rest later : Program I α} {before after history : History I} {result : Option α}

theorem Leaves.append (hbefore : program.Leaves before rest) (hafter : rest.Leaves after later) :
    program.Leaves (before ++ after) later := by
  induction hbefore with
  | nil => exact hafter
  | cons answer _ ih => exact .cons answer (ih hafter)

theorem leaves_done_iff {value : α} :
    (Program.done value).Leaves history rest ↔ history = [] ∧ rest = .done value := by
  constructor
  · intro hleaves
    cases hleaves
    exact ⟨rfl, rfl⟩
  · rintro ⟨rfl, rfl⟩
    exact .nil _

/-- One more request, with any answer. -/
theorem Leaves.concat {request : I.Request} {next : I.Answer request → Program I α}
    (hleaves : program.Leaves history (.ask request next)) (answer : I.Answer request) :
    program.Leaves (history ++ [⟨request, answer⟩]) (next answer) :=
  hleaves.append (.cons answer (.nil _))

/-- What a program can still do after a part of a run is what it leaves. -/
theorem Leaves.isRun_append_iff (hleaves : program.Leaves before rest) :
    program.IsRun (before ++ after) result ↔ rest.IsRun after result := by
  induction hleaves with
  | nil => exact Iff.rfl
  | cons answer _ ih =>
    constructor
    · intro hrun
      cases hrun with
      | ask _ hrest => exact ih.1 hrest
    · intro hrun
      exact .ask answer (ih.2 hrun)

/-- A program of which nothing is left but a value has run. -/
theorem Leaves.isRun {value : α} (hleaves : program.Leaves history (.done value)) :
    program.IsRun history (some value) := by
  have hrun := hleaves.isRun_append_iff.2 (.done value)
  rwa [List.append_nil] at hrun

/-- The beginning of a run leaves a rest that goes on with the run. -/
theorem IsRun.exists_leaves (hrun : program.IsRun (before ++ after) result) :
    ∃ rest, program.Leaves before rest ∧ rest.IsRun after result := by
  induction before generalizing program with
  | nil => exact ⟨program, .nil program, hrun⟩
  | cons event before ih =>
    cases hrun with
    | ask answer hnext =>
      obtain ⟨rest, hleaves, hrest⟩ := ih hnext
      exact ⟨rest, .cons answer hleaves, hrest⟩

/-- A run leaves nothing but its value. -/
theorem IsRun.leaves {value : α} (hrun : program.IsRun history (some value)) :
    program.Leaves history (.done value) := by
  generalize hend : some value = ended at hrun
  induction hrun with
  | done =>
    obtain rfl := Option.some.inj hend
    exact .nil _
  | halt => cases hend
  | ask answer _ ih => exact .cons answer (ih hend)

theorem Leaves.bind {continuation : α → Program I β} (hleaves : program.Leaves history rest) :
    (program.bind continuation).Leaves history (rest.bind continuation) := by
  induction hleaves with
  | nil => exact .nil _
  | cons answer _ ih => exact .cons answer ih

end Leaves

/-- What holds of the rest and of the state after each part of a run that the surroundings allow. -/
def Throughout (conduct : Conduct I σ) (past : History I) (state : σ) (program : Program I α)
    (holds : Program I α → σ → Prop) : Prop :=
  ∀ ⦃history rest after⦄, program.Leaves history rest →
    conduct.Allows past state history after → holds rest after

section Throughout

variable {conduct : Conduct I σ} {past : History I} {state : σ} {holds : Program I α → σ → Prop}

theorem throughout_done {value : α} (hdone : holds (.done value) state) :
    (Program.done value).Throughout conduct past state holds := by
  intro history rest after hleaves hallows
  obtain ⟨rfl, rfl⟩ := leaves_done_iff.1 hleaves
  obtain rfl := Conduct.allows_nil_iff.1 hallows
  exact hdone

theorem throughout_ask {request : I.Request} {next : I.Answer request → Program I α}
    (hask : holds (.ask request next) state)
    (hnext : ∀ answer middle, conduct past state request answer middle →
      (next answer).Throughout conduct (past ++ [⟨request, answer⟩]) middle holds) :
    (Program.ask request next).Throughout conduct past state holds := by
  intro history rest after hleaves hallows
  cases hleaves with
  | nil =>
    obtain rfl := Conduct.allows_nil_iff.1 hallows
    exact hask
  | cons answer hlater =>
    obtain ⟨middle, hstep, hrest⟩ := Conduct.allows_cons_iff.1 hallows
    exact hnext answer middle hstep hlater hrest

end Throughout

/-! ## Requests of a kind -/

/-- A kind of requests, by the events before them. -/
abbrev RequestKind (I : Interface) := History I → I.Request → Prop

/-- Whether a program, after given events, asks for things of a kind only, whatever it is answered,
and ends with a value for which a condition holds, which may look at all events. -/
inductive Asks (kind : RequestKind I) :
    History I → Program I α → (α → History I → Prop) → Prop
  | done {past : History I} {value : α} {post : α → History I → Prop} (holds : post value past) :
      Asks kind past (.done value) post
  | ask {past : History I} {request : I.Request} {next : I.Answer request → Program I α}
      {post : α → History I → Prop} (first : kind past request)
      (rest : ∀ answer, Asks kind (past ++ [⟨request, answer⟩]) (next answer) post) :
      Asks kind past (.ask request next) post

/-- Whether all events of a history after given ones are of a kind. -/
inductive IsOfKind (kind : RequestKind I) : History I → History I → Prop
  | nil (past : History I) : IsOfKind kind past []
  | cons {past history : History I} {event : Event I} (first : kind past event.request)
      (rest : IsOfKind kind (past ++ [event]) history) : IsOfKind kind past (event :: history)

section Asks

variable {kind stronger : RequestKind I} {past history : History I} {program : Program I α}
  {post weaker : α → History I → Prop}

theorem asks_perform {request : I.Request} {post : I.Answer request → History I → Prop}
    (hkind : kind past request) (hpost : ∀ answer, post answer (past ++ [⟨request, answer⟩])) :
    (perform request).Asks kind past post :=
  .ask hkind fun answer ↦ .done (hpost answer)

/-- A program with its continuation asks for one kind of things when each of the two does. -/
theorem asks_bind {continuation : α → Program I β} {post : β → History I → Prop}
    (hprogram : program.Asks kind past fun value past ↦
      (continuation value).Asks kind past post) :
    (program.bind continuation).Asks kind past post := by
  generalize hmid : (fun value past ↦ (continuation value).Asks kind past post) = mid at hprogram
  induction hprogram with
  | done holds =>
    subst hmid
    exact holds
  | ask first _ ih => exact .ask first fun answer ↦ ih answer hmid

theorem Asks.mono (hprogram : program.Asks kind past post)
    (himplies : ∀ value past, post value past → weaker value past) :
    program.Asks kind past weaker := by
  induction hprogram with
  | done holds => exact .done (himplies _ _ holds)
  | ask first _ ih => exact .ask first fun answer ↦ ih answer himplies

/-- Requests of a kind are of every weaker kind. -/
theorem Asks.weaken (hprogram : program.Asks stronger past post)
    (himplies : ∀ past request, stronger past request → kind past request) :
    program.Asks kind past post := by
  induction hprogram with
  | done holds => exact .done holds
  | ask first _ ih => exact .ask (himplies _ _ first) ih

/-- The events at the end begin with those from before. -/
theorem Asks.extends (hprogram : program.Asks kind past post) :
    program.Asks kind past fun value later ↦ past <+: later ∧ post value later := by
  induction hprogram with
  | done holds => exact .done ⟨List.prefix_rfl, holds⟩
  | ask first _ ih =>
    refine .ask first fun answer ↦ (ih answer).mono ?_
    rintro value later ⟨hbegins, hpost⟩
    exact ⟨(List.prefix_append _ _).trans hbegins, hpost⟩

/-- What is left of a program goes on asking for the same kind of things. -/
theorem Asks.leaves {rest : Program I α} (hprogram : program.Asks kind past post)
    (hleaves : program.Leaves history rest) : rest.Asks kind (past ++ history) post := by
  induction hleaves generalizing past with
  | nil => rwa [List.append_nil]
  | cons answer _ ih =>
    cases hprogram with
    | ask _ hnext =>
      have hrest := ih (hnext answer)
      rwa [List.append_assoc] at hrest

/-- The events of a part of a run are of the kind that the program asks for. -/
theorem Asks.isOfKind {rest : Program I α} (hprogram : program.Asks kind past post)
    (hleaves : program.Leaves history rest) : IsOfKind kind past history := by
  induction hleaves generalizing past with
  | nil => exact .nil past
  | cons answer _ ih =>
    cases hprogram with
    | ask hfirst hnext => exact .cons hfirst (ih (hnext answer))

/-- A program that asks within a kind does not crash. -/
theorem Asks.exists_value {result : Option α} (hprogram : program.Asks kind past post)
    (hrun : program.IsRun history result) :
    ∃ value, result = some value ∧ post value (past ++ history) := by
  induction hprogram generalizing history with
  | done holds =>
    obtain ⟨rfl, rfl⟩ := isRun_done_iff.1 hrun
    rw [List.append_nil]
    exact ⟨_, rfl, holds⟩
  | ask _ _ ih =>
    obtain ⟨answer, rest, rfl, hrest⟩ := isRun_ask_iff.1 hrun
    obtain ⟨value, rfl, hpost⟩ := ih answer hrest
    rw [List.append_assoc] at hpost
    exact ⟨value, rfl, hpost⟩

/-- What each event of a kind keeps, a history of the kind keeps. -/
theorem IsOfKind.keeps {holds : History I → Prop} (hhistory : IsOfKind kind past history)
    (hkeeps : ∀ past event, holds past → kind past event.request → holds (past ++ [event]))
    (hpast : holds past) : holds (past ++ history) := by
  induction hhistory with
  | nil => rwa [List.append_nil]
  | cons first _ ih =>
    have hrest := ih (hkeeps _ _ hpast first)
    rwa [List.append_assoc] at hrest

/-- A program that asks within a kind keeps what each event of the kind keeps, whatever answers. -/
theorem Asks.ensures_keeps {conduct : Conduct I σ} {state : σ} {holds : History I → Prop}
    (hprogram : program.Asks kind past post)
    (hkeeps : ∀ past event, holds past → kind past event.request → holds (past ++ [event]))
    (hpast : holds past) :
    program.Ensures conduct past state fun _ later _ ↦ holds later := by
  intro history result after hrun _
  obtain ⟨value, rfl, -⟩ := hprogram.exists_value hrun
  have hhistory := hprogram.isOfKind hrun.leaves
  exact ⟨value, rfl, hhistory.keeps hkeeps hpast⟩

/-- An event is of the kind by the events before it. -/
theorem IsOfKind.of_append {before after : History I} {event : Event I}
    (hhistory : IsOfKind kind past (before ++ event :: after)) :
    kind (past ++ before) event.request := by
  induction before generalizing past with
  | nil =>
    cases hhistory with
    | cons first _ => rwa [List.append_nil]
  | cons earlier before ih =>
    cases hhistory with
    | cons _ rest =>
      have hlater := ih rest
      rwa [List.append_assoc] at hlater

/-- Each event of such a history is of the kind. -/
theorem IsOfKind.of_mem (hhistory : IsOfKind kind past history) {event : Event I}
    (hmem : event ∈ history) : ∃ before, kind before event.request := by
  induction hhistory with
  | nil => cases hmem
  | cons first _ ih =>
    obtain rfl | hlater := List.mem_cons.1 hmem
    · exact ⟨_, first⟩
    · exact ih hlater

end Asks

end Program

namespace Task

variable {kind : Program.RequestKind I} {past : History I}

theorem asks_bind {task : Task I α} {next : α → Task I β}
    {post : Except Failure β → History I → Prop}
    (htask : task.attempt.Asks kind past fun result past ↦
      match result with
      | .ok value => (next value).attempt.Asks kind past post
      | .error failure => post (.error failure) past) :
    (task >>= next).attempt.Asks kind past post := by
  rw [attempt_bind]
  refine Program.asks_bind (htask.mono ?_)
  intro result past hmid
  cases result with
  | error failure => exact .done hmid
  | ok value => exact hmid

/-- A sequence of tasks that ask for things of a kind does so as well. -/
theorem asks_seq {task : Task I α} {next : α → Task I β}
    (htask : task.attempt.Asks kind past fun _ _ ↦ True)
    (hnext : ∀ value past, (next value).attempt.Asks kind past fun _ _ ↦ True) :
    (task >>= next).attempt.Asks kind past fun _ _ ↦ True := by
  refine asks_bind (htask.mono fun result past _ ↦ ?_)
  cases result with
  | error failure => trivial
  | ok value => exact hnext value past

theorem asks_liftM_bind {program : Program I α} {next : α → Task I β}
    {post : Except Failure β → History I → Prop}
    (hprogram : program.Asks kind past fun value past ↦ (next value).attempt.Asks kind past post) :
    ((liftM program : Task I α) >>= next).attempt.Asks kind past post := by
  rw [attempt_bind, attempt_liftM, Program.bind_assoc]
  exact Program.asks_bind hprogram

theorem asks_ofSystem {program : Program I (Except Host.SystemError α)}
    (hprogram : program.Asks kind past fun _ _ ↦ True) :
    (ofSystem program).attempt.Asks kind past fun _ _ ↦ True :=
  Program.asks_bind (hprogram.mono fun _ _ _ ↦ .done trivial)

/-- An activity around the failure of a task leaves its requests as they are. -/
theorem asks_within {activity : Activity} {task : Task I α}
    {post : Except Failure α → History I → Prop}
    (htask : task.attempt.Asks kind past fun result past ↦
      post (result.mapError (.within activity)) past) :
    (Task.within activity task).attempt.Asks kind past post := by
  refine Program.asks_bind (htask.mono ?_)
  intro result past hpost
  cases result with
  | error failure => exact .done hpost
  | ok value => exact .done hpost

end Task

end MicroVm
