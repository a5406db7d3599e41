import MicroVm.Network.Resolver
import MicroVm.Proofs.Text.Occurrence

/-!
# Which name servers a guest gets

Only lines that name a server count in a configuration. Of two configurations one is chosen, and its
servers that are not on the loopback go to the guest, each family in the order of the lines. The
local configuration is chosen when it has any server that the guest can use.
-/

namespace MicroVm.Network

variable {line : List Char} {lines : List (List Char)} {server : IpAddress}
  {servers localServers fallbackServers : List IpAddress} {v4 : List Ipv4} {v6 : List Ipv6}

/-! ## Lines -/

/-- Whether a line names a server. Without the blanks around it, it begins with the keyword, and
what follows the keyword is an address with or without blanks around it. -/
def NamesServer (line : List Char) (server : IpAddress) : Prop :=
  ∃ rest, Text.trim line = "nameserver".toList ++ rest ∧
    IpAddress.parse? (Text.trim rest) = some server

/-- Whether a line names any server. -/
def IsServerLine (line : List Char) : Prop := ∃ server, NamesServer line server

theorem nameserver?_eq_some_iff : nameserver? line = some server ↔ NamesServer line server := by
  simp only [nameserver?, Option.bind_eq_bind, Option.bind_eq_some_iff,
    Text.dropBeginning?_eq_some_iff, NamesServer]

theorem isSome_nameserver?_iff : (nameserver? line).isSome ↔ IsServerLine line := by
  simp only [Option.isSome_iff_exists, nameserver?_eq_some_iff, IsServerLine]

instance : DecidablePred IsServerLine := fun _ ↦ decidable_of_iff _ isSome_nameserver?_iff

-- no blank has to stand between the keyword and the address
example : IsServerLine " nameserver10.96.0.10".toList := by decide

/-- The servers that lines name, in the order of the lines. -/
inductive Lists : List (List Char) → List IpAddress → Prop
  | nil : Lists [] []
  | server {line : List Char} {lines : List (List Char)} {server : IpAddress}
      {servers : List IpAddress} (hline : NamesServer line server) (hlines : Lists lines servers) :
      Lists (line :: lines) (server :: servers)
  | other {line : List Char} {lines : List (List Char)} {servers : List IpAddress}
      (hline : ¬ IsServerLine line) (hlines : Lists lines servers) : Lists (line :: lines) servers

theorem lists_filterMap (lines : List (List Char)) : Lists lines (lines.filterMap nameserver?) := by
  induction lines with
  | nil => exact .nil
  | cons line lines ih =>
    cases hline : nameserver? line with
    | none =>
      rw [List.filterMap_cons_none hline]
      exact .other (by rw [← isSome_nameserver?_iff, hline]; exact nofun) ih
    | some server =>
      rw [List.filterMap_cons_some hline]
      exact .server (nameserver?_eq_some_iff.1 hline) ih

/-- Lines that name no server may be left out. -/
theorem filterMap_filter_isServerLine (lines : List (List Char)) :
    (lines.filter IsServerLine).filterMap nameserver? = lines.filterMap nameserver? := by
  rw [List.filterMap_filter]
  congr 1
  funext line
  split
  next => rfl
  next hline =>
    rw [decide_eq_true_iff, ← isSome_nameserver?_iff, Option.not_isSome_iff_eq_none] at hline
    exact hline.symm

/-! ## Families -/

/-- Whether an address is on the loopback, which for IPv4 is a whole subnet. -/
def IpAddress.IsLoopback : IpAddress → Prop
  | .v4 address => ∃ b c d, address = .ofBytes 127 b c d
  | .v6 address => address.octets.bytes = List.replicate 15 0 ++ [1]

theorem Ipv4.isLoopback_iff {address : Ipv4} :
    address.isLoopback ↔ ∃ b c d, address = .ofBytes 127 b c d := by
  rw [isLoopback, beq_iff_eq]
  constructor
  · intro hfirst
    have hbytes := word32OfBytes_bytesOfWord32 address.bits
    rw [hfirst] at hbytes
    exact ⟨_, _, _, Ipv4.ext hbytes.symm⟩
  · rintro ⟨b, c, d, rfl⟩
    have hb := b.toNat_lt
    have hc := c.toNat_lt
    have hd := d.toNat_lt
    rw [ofBytes, ← UInt32.toNat_inj, UInt32.toNat_shiftRight, toNat_word32OfBytes,
      Nat.shiftRight_eq_div_pow]
    simp only [UInt8.reduceToNat, UInt32.reduceToNat, Nat.reduceMod, Nat.reducePow]
    omega

theorem IpAddress.isLoopback_iff : server.isLoopback ↔ server.IsLoopback := by
  cases server with
  | v4 address => exact Ipv4.isLoopback_iff
  | v6 address => exact beq_iff_eq

/-- How servers go to the guest: those on the loopback do not, and the others go to their family. -/
inductive Splits : List IpAddress → List Ipv4 → List Ipv6 → Prop
  | nil : Splits [] [] []
  | loopback {server : IpAddress} {servers : List IpAddress} {v4 : List Ipv4} {v6 : List Ipv6}
      (hserver : server.IsLoopback) (hservers : Splits servers v4 v6) :
      Splits (server :: servers) v4 v6
  | v4 {address : Ipv4} {servers : List IpAddress} {v4 : List Ipv4} {v6 : List Ipv6}
      (hserver : ¬ (IpAddress.v4 address).IsLoopback) (hservers : Splits servers v4 v6) :
      Splits (.v4 address :: servers) (address :: v4) v6
  | v6 {address : Ipv6} {servers : List IpAddress} {v4 : List Ipv4} {v6 : List Ipv6}
      (hserver : ¬ (IpAddress.v6 address).IsLoopback) (hservers : Splits servers v4 v6) :
      Splits (.v6 address :: servers) v4 (address :: v6)

theorem ofServers_cons_of_isLoopback (hserver : server.IsLoopback) :
    GuestDns.ofServers (server :: servers) = GuestDns.ofServers servers := by
  simp only [GuestDns.ofServers, List.filter_cons, IpAddress.isLoopback_iff.2 hserver,
    Bool.not_true, Bool.false_eq_true, if_false]

theorem ofServers_cons_of_not_isLoopback (hserver : ¬ server.IsLoopback) :
    GuestDns.ofServers (server :: servers) =
      ⟨server.v4?.toList ++ (GuestDns.ofServers servers).v4,
        server.v6?.toList ++ (GuestDns.ofServers servers).v6⟩ := by
  rw [← IpAddress.isLoopback_iff, Bool.not_eq_true] at hserver
  simp only [GuestDns.ofServers, List.filter_cons, hserver, Bool.not_false, if_true]
  cases server <;> rfl

theorem splits_ofServers (servers : List IpAddress) :
    Splits servers (GuestDns.ofServers servers).v4 (GuestDns.ofServers servers).v6 := by
  induction servers with
  | nil => exact .nil
  | cons server servers ih =>
    by_cases hserver : server.IsLoopback
    · rw [ofServers_cons_of_isLoopback hserver]
      exact .loopback hserver ih
    · rw [ofServers_cons_of_not_isLoopback hserver]
      cases server with
      | v4 address => exact .v4 hserver ih
      | v6 address => exact .v6 hserver ih

/-- No server that is kept is on the loopback. -/
theorem Splits.not_isLoopback (h : Splits servers v4 v6) :
    (∀ address ∈ v4, ¬ (IpAddress.v4 address).IsLoopback) ∧
      ∀ address ∈ v6, ¬ (IpAddress.v6 address).IsLoopback := by
  induction h with
  | nil => exact ⟨nofun, nofun⟩
  | loopback _ _ ih => exact ih
  | v4 hserver _ ih => exact ⟨List.forall_mem_cons.2 ⟨hserver, ih.1⟩, ih.2⟩
  | v6 hserver _ ih => exact ⟨ih.1, List.forall_mem_cons.2 ⟨hserver, ih.2⟩⟩

/-- Nothing is kept exactly when all servers are on the loopback. -/
theorem Splits.eq_nil_iff (h : Splits servers v4 v6) :
    v4 = [] ∧ v6 = [] ↔ ∀ server ∈ servers, server.IsLoopback := by
  induction h with
  | nil => simp
  | loopback hserver _ ih => rw [ih, List.forall_mem_cons, and_iff_right hserver]
  | v4 hserver _ ih => simp [hserver]
  | v6 hserver _ ih => simp [hserver]

/-! ## Two configurations -/

/-- Whether the servers for the guest are a choice among those of two configurations. -/
structure SelectsServers (localServers fallbackServers : List IpAddress) (dns : GuestDns) :
    Prop where
  /-- None of them is on the loopback. -/
  not_isLoopback : (∀ address ∈ dns.v4, ¬ (IpAddress.v4 address).IsLoopback) ∧
    ∀ address ∈ dns.v6, ¬ (IpAddress.v6 address).IsLoopback
  /-- They are those of one configuration. -/
  of_one : Splits localServers dns.v4 dns.v6 ∨ Splits fallbackServers dns.v4 dns.v6
  /-- The local configuration comes first, if there is anything in it for the guest. -/
  of_local : (∃ server ∈ localServers, ¬ server.IsLoopback) → Splits localServers dns.v4 dns.v6
  /-- The fallback configuration comes next, if there is anything in it. -/
  of_fallback : (∀ server ∈ localServers, server.IsLoopback) → fallbackServers ≠ [] →
    Splits fallbackServers dns.v4 dns.v6
  /-- The guest gets none when it can use none of either configuration. -/
  eq_nil_iff : dns.v4 = [] ∧ dns.v6 = [] ↔
    (∀ server ∈ localServers, server.IsLoopback) ∧ ∀ server ∈ fallbackServers, server.IsLoopback

/-- The servers that are chosen among those of two configurations. -/
def chosenOf (localServers fallbackServers : List IpAddress) : List IpAddress :=
  if localServers.all IpAddress.isLoopback ∧ fallbackServers ≠ [] then fallbackServers
  else localServers

theorem chosenServers_eq (localText fallbackText : Option (List Char)) :
    chosenServers localText fallbackText =
      chosenOf (nameservers (localText.getD [])) (nameservers (fallbackText.getD [])) := by
  rw [chosenServers, chosenOf]
  split
  next hlocal =>
    simp only [hlocal, true_and]
    cases fallbackText with
    | none => rfl
    | some text =>
      rw [Option.map_some, Option.getD_some]
      cases nameservers text <;> rfl
  next hlocal => rw [if_neg fun hboth ↦ hlocal hboth.1]

theorem all_isLoopback_iff :
    servers.all IpAddress.isLoopback ↔ ∀ server ∈ servers, server.IsLoopback := by
  rw [List.all_eq_true]
  exact forall₂_congr fun _ _ ↦ IpAddress.isLoopback_iff

theorem selectsServers_chosenOf (localServers fallbackServers : List IpAddress) :
    SelectsServers localServers fallbackServers
      (.ofServers (chosenOf localServers fallbackServers)) := by
  have hlocal := splits_ofServers localServers
  have hfallback := splits_ofServers fallbackServers
  rw [chosenOf]
  split
  next hchosen =>
    have hloopback := all_isLoopback_iff.1 hchosen.1
    refine ⟨hfallback.not_isLoopback, .inr hfallback, ?_, fun _ _ ↦ hfallback, ?_⟩
    · rintro ⟨server, hmem, hserver⟩
      exact absurd (hloopback server hmem) hserver
    · rw [hfallback.eq_nil_iff, and_iff_right hloopback]
  next hchosen =>
    have hempty (hloopback : ∀ server ∈ localServers, server.IsLoopback) :
        fallbackServers = [] := by
      by_contra hnamed
      exact hchosen ⟨all_isLoopback_iff.2 hloopback, hnamed⟩
    refine ⟨hlocal.not_isLoopback, .inl hlocal, fun _ ↦ hlocal, ?_, ?_⟩
    · intro hloopback hnamed
      exact absurd (hempty hloopback) hnamed
    · rw [hlocal.eq_nil_iff]
      refine ⟨fun hloopback ↦ ⟨hloopback, ?_⟩, And.left⟩
      rw [hempty hloopback]
      exact nofun

end MicroVm.Network
