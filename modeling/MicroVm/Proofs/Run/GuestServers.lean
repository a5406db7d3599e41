import MicroVm.Proofs.Machine.StoreRequests
import MicroVm.Proofs.Network.NameServers
import MicroVm.Run.Lifecycle

/-!
# Reading the name servers of a guest

The local configuration is read first, and the fallback one only when the guest can use no server of
the local one. A configuration that cannot be read names no servers. What is found depends on
nothing but the lines of the two configurations that name a server.
-/

namespace MicroVm.Run

open MicroVm.Host
open MicroVm.Network

variable {path : String} {localAnswer fallbackAnswer : Except SystemError (List UInt8)}

/-- The text that a file holds, nothing when it cannot be read or holds no text. -/
def textOf? : Except SystemError (List UInt8) → Option (List Char)
  | .ok content => Text.decodeStrict? content
  | .error _ => none

/-- The lines of a file. A file without a text has none. -/
def linesOf (answer : Except SystemError (List UInt8)) : List (List Char) :=
  Text.lines ((textOf? answer).getD [])

/-- The lines of a file that name a server. -/
def serverLines (answer : Except SystemError (List UInt8)) : List (List Char) :=
  (linesOf answer).filter IsServerLine

/-- The servers that a file names. -/
def serversOf (answer : Except SystemError (List UInt8)) : List IpAddress :=
  nameservers ((textOf? answer).getD [])

theorem serversOf_eq (answer : Except SystemError (List UInt8)) :
    serversOf answer = (serverLines answer).filterMap nameserver? :=
  (filterMap_filter_isServerLine (linesOf answer)).symm

/-! ## Runs -/

theorem readIfPossible_eq (path : String) :
    readIfPossible path =
      .ask (I := Files) (.readFile path) fun answer ↦ .done (textOf? answer) := by
  rw [readIfPossible, Machine.attempt_readText]
  change Program.ask _ _ = _
  congr 1
  funext answer
  cases answer with
  | error error => rfl
  | ok content =>
    dsimp only
    rw [textOf?]
    cases Text.decodeStrict? content <;> rfl

/-- The fallback configuration is asked for only when the local one leaves no server. -/
theorem readDns_eq (path : String) :
    readDns path = .ask (I := Files) (.readFile path) fun localAnswer ↦
      if (serversOf localAnswer).all IpAddress.isLoopback then
        .ask (I := Files) (.readFile fallbackResolverPath) fun fallbackAnswer ↦
          .done (guestDns (textOf? localAnswer) (textOf? fallbackAnswer))
      else .done (guestDns (textOf? localAnswer) none) := by
  rw [readDns, readIfPossible_eq, readIfPossible_eq]
  rfl

/-- Whether reading gives a result when the two files hold what they hold. -/
def GivesDns (path : String) (localAnswer fallbackAnswer : Except SystemError (List UInt8))
    (result : Option GuestDns) : Prop :=
  ∃ history, (readDns path).IsRun history result ∧
    history <+: [⟨.readFile path, localAnswer⟩, ⟨.readFile fallbackResolverPath, fallbackAnswer⟩]

/-- When the guest can use a server of the local file, the other one has no part in the choice. -/
theorem guestDns_none (hkept : ¬ (serversOf localAnswer).all IpAddress.isLoopback)
    (fallbackText : Option (List Char)) :
    guestDns (textOf? localAnswer) none = guestDns (textOf? localAnswer) fallbackText := by
  rw [serversOf] at hkept
  simp only [guestDns, chosenServers, hkept, Bool.false_eq_true, if_false]

/-- The servers that are chosen are those that the two answers give. -/
theorem givesDns_guestDns (path : String)
    (localAnswer fallbackAnswer : Except SystemError (List UInt8)) :
    GivesDns path localAnswer fallbackAnswer
      (some (guestDns (textOf? localAnswer) (textOf? fallbackAnswer))) := by
  rw [GivesDns, readDns_eq]
  by_cases hloopback : (serversOf localAnswer).all IpAddress.isLoopback
  · refine ⟨_, Program.isRun_ask_iff.2 ⟨localAnswer, _, rfl, ?_⟩, List.prefix_refl _⟩
    rw [if_pos hloopback]
    exact Program.isRun_ask_iff.2 ⟨fallbackAnswer, [], rfl, .done _⟩
  · refine ⟨_, Program.isRun_ask_iff.2 ⟨localAnswer, [], rfl, ?_⟩, List.prefix_append _ _⟩
    rw [if_neg hloopback, guestDns_none hloopback]
    exact .done _

theorem GivesDns.eq {result : Option GuestDns}
    (h : GivesDns path localAnswer fallbackAnswer result) :
    result = some (guestDns (textOf? localAnswer) (textOf? fallbackAnswer)) := by
  obtain ⟨history, hrun, hprefix⟩ := h
  rw [readDns_eq] at hrun
  obtain ⟨answer, rest, rfl, hrest⟩ := Program.isRun_ask_iff.1 hrun
  obtain ⟨hevent, hlater⟩ := List.cons_prefix_cons.1 hprefix
  cases hevent
  split at hrest
  next hloopback =>
    obtain ⟨answer, rest, rfl, hend⟩ := Program.isRun_ask_iff.1 hrest
    obtain ⟨hevent, -⟩ := List.cons_prefix_cons.1 hlater
    cases hevent
    exact (Program.isRun_done_iff.1 hend).2
  next hkept => rw [(Program.isRun_done_iff.1 hrest).2, guestDns_none hkept]

theorem givesDns_iff {result : Option GuestDns} :
    GivesDns path localAnswer fallbackAnswer result ↔
      result = some (.ofServers (chosenOf (serversOf localAnswer) (serversOf fallbackAnswer))) := by
  have hchosen : guestDns (textOf? localAnswer) (textOf? fallbackAnswer) =
      .ofServers (chosenOf (serversOf localAnswer) (serversOf fallbackAnswer)) := by
    rw [guestDns, chosenServers_eq, serversOf, serversOf]
  rw [← hchosen]
  refine ⟨GivesDns.eq, ?_⟩
  rintro rfl
  exact givesDns_guestDns path localAnswer fallbackAnswer

/-- The guest gets a choice among the servers that the lines of the two files name, and other lines
have no part in it. -/
theorem readDns_selectsServers (path : String)
    (localAnswer fallbackAnswer : Except SystemError (List UInt8)) :
    ∃ localServers fallbackServers dns,
      Lists (linesOf localAnswer) localServers ∧ Lists (linesOf fallbackAnswer) fallbackServers ∧
      (∀ result, GivesDns path localAnswer fallbackAnswer result ↔ result = some dns) ∧
      SelectsServers localServers fallbackServers dns ∧
      ∀ otherPath otherLocal otherFallback, serverLines otherLocal = serverLines localAnswer →
        serverLines otherFallback = serverLines fallbackAnswer →
        GivesDns otherPath otherLocal otherFallback (some dns) := by
  refine ⟨serversOf localAnswer, serversOf fallbackAnswer, _, lists_filterMap _, lists_filterMap _,
    fun _ ↦ givesDns_iff, selectsServers_chosenOf _ _, ?_⟩
  intro otherPath otherLocal otherFallback hlocal hfallback
  rw [givesDns_iff, serversOf_eq, serversOf_eq, serversOf_eq, serversOf_eq, hlocal, hfallback]

end MicroVm.Run
