import Mathlib.Data.List.Basic
import MicroVm.Network.Takeover
import MicroVm.Proofs.Network.PlannedNetwork

/-!
# Changes one after the other

A task that makes one change after the other and stops at the first that fails is known by its
calls: which changes they are, up to the random bytes drawn for them, and how a failure of each is
reported. Sequences of such tasks make the calls of their parts. Against a network that answers by a
plan the calls made are therefore all of them, or those up to the first that fails.
-/

namespace MicroVm.Network

variable {α β : Type} {plan : NetworkPlan} {progress : Progress}

/-! ## Calls one after the other -/

/-- A call, which may hold random bytes, and how its failure is reported. -/
structure Call where
  change : Octets 6 → Change
  report : Failure → Failure := id

/-- Makes calls one after the other. The first one that fails is the last one made. -/
def NetworkPlan.play (plan : NetworkPlan) : List Call → Progress → Except Failure Unit × Progress
  | [], progress => (.ok (), progress)
  | call :: calls, progress =>
    let after := progress.change (call.change (plan.bytes progress.changes.length))
    match plan.ending progress.changes.length with
    | .ok () => plan.play calls after
    | .error failure => (.error (call.report failure), after)

section Play

variable {calls later : List Call} {call : Call}

theorem play_cons_of_ok (hok : plan.ending progress.changes.length = .ok ()) :
    plan.play (call :: calls) progress =
      plan.play calls (progress.change (call.change (plan.bytes progress.changes.length))) := by
  rw [NetworkPlan.play, hok]

theorem play_cons_of_error {failure : Failure}
    (herror : plan.ending progress.changes.length = .error failure) :
    plan.play (call :: calls) progress =
      (.error (call.report failure),
        progress.change (call.change (plan.bytes progress.changes.length))) := by
  rw [NetworkPlan.play, herror]

/-- Making the calls of a sequence goes on after the first part if none of that failed. -/
theorem play_append_of_ok {middle : Progress}
    (hfirst : plan.play calls progress = (.ok (), middle)) :
    plan.play (calls ++ later) progress = plan.play later middle := by
  induction calls generalizing progress with
  | nil =>
    obtain rfl : progress = middle := congrArg Prod.snd hfirst
    rfl
  | cons call calls ih =>
    cases hending : plan.ending progress.changes.length with
    | ok =>
      rw [play_cons_of_ok hending] at hfirst
      rw [List.cons_append, play_cons_of_ok hending]
      exact ih hfirst
    | error failure =>
      rw [play_cons_of_error hending] at hfirst
      cases congrArg Prod.fst hfirst

/-- After a call that failed no other one is made. -/
theorem play_append_of_error {middle : Progress} {failure : Failure}
    (hfirst : plan.play calls progress = (.error failure, middle)) :
    plan.play (calls ++ later) progress = (.error failure, middle) := by
  induction calls generalizing progress with
  | nil => cases congrArg Prod.fst hfirst
  | cons call calls ih =>
    cases hending : plan.ending progress.changes.length with
    | ok =>
      rw [play_cons_of_ok hending] at hfirst
      rw [List.cons_append, play_cons_of_ok hending]
      exact ih hfirst
    | error other =>
      rw [play_cons_of_error hending] at hfirst
      rw [List.cons_append, play_cons_of_error hending]
      exact hfirst

/-- A call whose failure is reported with an activity around it. -/
def Call.within (activity : Activity) (call : Call) : Call :=
  { call with report := fun failure ↦ .within activity (call.report failure) }

/-- An activity around all calls is one around the failure that comes of them. -/
theorem play_map_within (activity : Activity) :
    plan.play (calls.map (Call.within activity)) progress =
      ((plan.play calls progress).1.mapError (.within activity), (plan.play calls progress).2) := by
  induction calls generalizing progress with
  | nil => rfl
  | cons call calls ih =>
    cases hending : plan.ending progress.changes.length with
    | ok => rw [List.map_cons, play_cons_of_ok hending, play_cons_of_ok hending, ih]; rfl
    | error failure =>
      rw [List.map_cons, play_cons_of_error hending, play_cons_of_error hending]
      rfl

/-- The changes that are asked for by calls, when the first of them is the one of a number. -/
def NetworkPlan.asked (plan : NetworkPlan) (number : ℕ) (calls : List Call) : List Change :=
  calls.mapIdx fun index call ↦ call.change (plan.bytes (number + index))

theorem asked_cons (number : ℕ) : plan.asked number (call :: calls) =
    call.change (plan.bytes number) :: plan.asked (number + 1) calls := by
  unfold NetworkPlan.asked
  rw [List.mapIdx_cons]
  refine congrArg₂ List.cons rfl (congrFun (congrArg List.mapIdx ?_) calls)
  funext index call
  rw [Nat.add_right_comm, Nat.add_assoc]

theorem length_changes_change (change : Change) :
    (progress.change change).changes.length = progress.changes.length + 1 :=
  List.length_append

/-- What is asked for by the calls that come after one. -/
theorem change_append_asked (change : Change) (rest : List Change) :
    { progress.change change with changes := (progress.change change).changes ++ rest } =
      { progress with changes := progress.changes ++ change :: rest } := by
  rw [Progress.change, List.append_assoc]
  rfl

/-- Calls of which none fails are all made. -/
theorem play_of_ok
    (hok : ∀ index < calls.length, plan.ending (progress.changes.length + index) = .ok ()) :
    plan.play calls progress = (.ok (), { progress with
      changes := progress.changes ++ plan.asked progress.changes.length calls }) := by
  induction calls generalizing progress with
  | nil =>
    rw [NetworkPlan.asked, List.mapIdx_nil, List.append_nil]
    rfl
  | cons call calls ih =>
    have hfirst : plan.ending progress.changes.length = .ok () := hok 0 (Nat.zero_lt_succ _)
    rw [play_cons_of_ok hfirst, ih, length_changes_change, change_append_asked, asked_cons]
    intro index hindex
    rw [length_changes_change, Nat.add_assoc, Nat.add_comm 1 index]
    exact hok (index + 1) (Nat.succ_lt_succ hindex)

/-- The first call that fails is the last one made. -/
theorem play_of_error {index : ℕ} {failure : Failure} (hcall : calls[index]? = some call)
    (hok : ∀ earlier < index, plan.ending (progress.changes.length + earlier) = .ok ())
    (herror : plan.ending (progress.changes.length + index) = .error failure) :
    plan.play calls progress = (.error (call.report failure), { progress with
      changes := progress.changes ++
        plan.asked progress.changes.length (calls.take (index + 1)) }) := by
  induction calls generalizing progress index with
  | nil => cases hcall
  | cons first calls ih =>
    cases index with
    | zero =>
      obtain rfl := Option.some.inj hcall
      rw [play_cons_of_error herror, List.take_succ_cons, asked_cons]
      rfl
    | succ index =>
      have hfirst : plan.ending progress.changes.length = .ok () := hok 0 (Nat.zero_lt_succ _)
      rw [play_cons_of_ok hfirst, ih hcall, length_changes_change, change_append_asked,
        List.take_succ_cons, asked_cons]
      · intro earlier hearlier
        rw [length_changes_change, Nat.add_assoc, Nat.add_comm 1 earlier]
        exact hok (earlier + 1) (Nat.succ_lt_succ hearlier)
      · rw [length_changes_change, Nat.add_assoc, Nat.add_comm 1 index]
        exact herror

/-- Whatever fails, the changes made are the first ones. -/
theorem exists_changes_play (plan : NetworkPlan) (calls : List Call) (progress : Progress) :
    ∃ count, (plan.play calls progress).2.changes =
      progress.changes ++ plan.asked progress.changes.length (calls.take count) := by
  induction calls generalizing progress with
  | nil => exact ⟨0, (List.append_nil _).symm⟩
  | cons call calls ih =>
    cases hending : plan.ending progress.changes.length with
    | ok =>
      obtain ⟨count, hcount⟩ :=
        ih (progress.change (call.change (plan.bytes progress.changes.length)))
      use count + 1
      rw [play_cons_of_ok hending, hcount, length_changes_change, List.take_succ_cons, asked_cons]
      exact List.append_assoc _ _ _
    | error failure =>
      use 1
      rw [play_cons_of_error hending, List.take_succ_cons, asked_cons]
      rfl

end Play

/-! ## Tasks that make calls -/

/-- Whether a task makes calls one after the other and then ends with a value. -/
def Follows (plan : NetworkPlan) (task : Task Links α) (calls : List Call) (value : α) : Prop :=
  ∀ progress, task.attempt.run plan.handler progress =
    (some ((plan.play calls progress).1.map fun _ ↦ value), (plan.play calls progress).2)

section Follows

variable {calls later : List Call} {task : Task Links α} {value : α}

theorem follows_pure (value : α) : Follows plan (pure value) [] value := fun _ ↦ rfl

theorem follows_change (change : Change) :
    Follows plan (Links.change change) [{ change := fun _ ↦ change }] () := by
  intro progress
  have hrun : (Links.change change).attempt.run plan.handler progress =
      (some (plan.ending progress.changes.length), progress.change change) := rfl
  rw [hrun]
  cases hending : plan.ending progress.changes.length with
  | ok => rw [play_cons_of_ok hending]; rfl
  | error failure => rw [play_cons_of_error hending]; rfl

theorem Follows.bind {next : α → Task Links β} {ended : β} (htask : Follows plan task calls value)
    (hnext : Follows plan (next value) later ended) :
    Follows plan (task >>= next) (calls ++ later) ended := by
  intro progress
  have hfirst := htask progress
  cases hplay : plan.play calls progress with
  | mk result middle =>
    rw [hplay] at hfirst
    cases result with
    | ok =>
      rw [play_append_of_ok hplay, Task.run_bind_of_ok hfirst]
      exact hnext middle
    | error failure =>
      rw [play_append_of_error hplay, Task.run_bind_of_error hfirst]
      rfl

theorem Follows.within (htask : Follows plan task calls value) (activity : Activity) :
    Follows plan (Task.within activity task) (calls.map (Call.within activity)) value := by
  intro progress
  rw [Task.run_within (htask progress), play_map_within]
  cases (plan.play calls progress).1 <;> rfl

/-- A change that holds bytes drawn just before it. -/
theorem follows_drawn {change : Octets 6 → Change} {next : Unit → Task Links β} {ended : β}
    (hnext : Follows plan (next ()) later ended) :
    Follows plan (do
      let bytes ← liftM Links.randomBytes
      let made ← Links.change (change bytes)
      next made) ({ change } :: later) ended := by
  intro progress
  have hbytes : Links.randomBytes.run plan.handler progress =
      (some (plan.bytes progress.changes.length), progress) := rfl
  rw [Task.run_liftM_bind hbytes]
  exact (follows_change (change (plan.bytes progress.changes.length))).bind hnext progress

theorem follows_changeAll (changes : List Change) :
    Follows plan (changeAll changes)
      (changes.map fun change ↦ { change := fun _ ↦ change }) () := by
  induction changes with
  | nil => exact follows_pure ()
  | cons change changes ih => exact (follows_change change).bind ih

end Follows

end MicroVm.Network
