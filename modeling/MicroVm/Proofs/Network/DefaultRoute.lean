import MicroVm.Network.LinkTools
import MicroVm.Proofs.Json.RoundTrip
import MicroVm.Proofs.Network.AddressText

/-!
# The default route of a device

Of a list of routes only those that lead out through a device and name a gateway bear on the gateway
of the device, and of these only the first. Two lists that have the same such routes give the device
the same gateway, or the same failure.
-/

namespace MicroVm.Network

variable {device : String} {text : List Char} {routes : List RouteEntry}

/-- Whether a route is a default route through a device that has a gateway. -/
def RouteEntry.LeadsOut (device : String) (route : RouteEntry) : Prop :=
  route.destination = some "default" ∧ route.device = some device ∧ route.gateway.isSome

instance (device : String) : DecidablePred (RouteEntry.LeadsOut device) := fun route ↦
  inferInstanceAs (Decidable (route.destination = some "default" ∧ route.device = some device ∧
    route.gateway.isSome))

/-- The default routes through a device that have a gateway, in their order. -/
def waysOut (device : String) (routes : List RouteEntry) : List RouteEntry :=
  routes.filter (RouteEntry.LeadsOut device)

/-- What the ways out of a device give as its gateway: nothing when there are none, and otherwise
the address that the first one names, or the complaint that it names none. -/
inductive GivesGateway : List RouteEntry → Except Failure (Option Ipv4) → Prop
  | none : GivesGateway [] (.ok none)
  | address {route : RouteEntry} {rest : List RouteEntry} {address : Ipv4}
      (hgateway : route.gateway = some address.text) :
      GivesGateway (route :: rest) (.ok (some address))
  | complaint {route : RouteEntry} {rest : List RouteEntry} {gateway : String}
      (hgateway : route.gateway = some gateway)
      (hinvalid : ∀ address : Ipv4, gateway ≠ address.text) :
      GivesGateway (route :: rest)
        (.error (.within (.parsingGateway gateway) (.cause .badAddress)))

/-! ## One route after the other -/

theorem defaultGateway?_of_leadsOut {route : RouteEntry} (h : route.LeadsOut device) :
    route.defaultGateway? device = route.gateway := by
  rw [RouteEntry.defaultGateway?, if_pos ⟨h.1, h.2.1⟩]

/-- A route through another device, to another place or without a gateway is passed over. -/
theorem defaultGateway?_of_not_leadsOut {route : RouteEntry} (h : ¬ route.LeadsOut device) :
    route.defaultGateway? device = none := by
  rw [RouteEntry.defaultGateway?]
  split
  next hdefault =>
    by_contra hgateway
    exact h ⟨hdefault.1, hdefault.2, Option.isSome_iff_ne_none.2 hgateway⟩
  next => rfl

theorem waysOut_cons_of_leadsOut {route : RouteEntry} (h : route.LeadsOut device) :
    waysOut device (route :: routes) = route :: waysOut device routes :=
  List.filter_cons_of_pos (decide_eq_true h)

theorem waysOut_cons_of_not_leadsOut {route : RouteEntry} (h : ¬ route.LeadsOut device) :
    waysOut device (route :: routes) = waysOut device routes :=
  List.filter_cons_of_neg (by simpa only [decide_eq_true_eq] using h)

/-- The gateway is that of the first way out. -/
theorem gatewayText?_eq (device : String) (routes : List RouteEntry) :
    gatewayText? device routes = (waysOut device routes).head?.bind RouteEntry.gateway := by
  induction routes with
  | nil => rfl
  | cons route routes ih =>
    rw [gatewayText?] at ih ⊢
    by_cases h : route.LeadsOut device
    · obtain ⟨gateway, hgateway⟩ := Option.isSome_iff_exists.1 h.2.2
      have hfirst : route.defaultGateway? device = some gateway :=
        (defaultGateway?_of_leadsOut h).trans hgateway
      rw [List.findSome?_cons_of_isSome (hfirst ▸ rfl), hfirst, waysOut_cons_of_leadsOut h]
      exact hgateway.symm
    · rw [List.findSome?_cons_of_isNone (by rw [defaultGateway?_of_not_leadsOut h]; rfl), ih,
        waysOut_cons_of_not_leadsOut h]

theorem leadsOut_of_waysOut_eq_cons {route : RouteEntry} {rest : List RouteEntry}
    (h : waysOut device routes = route :: rest) : route.LeadsOut device := by
  have hmem : route ∈ waysOut device routes := h ▸ List.mem_cons_self
  exact of_decide_eq_true (List.mem_filter.1 hmem).2

/-! ## The gateway in a listing -/

/-- No ways out give two gateways. -/
theorem GivesGateway.unique {ways : List RouteEntry} {found other : Except Failure (Option Ipv4)}
    (hfound : GivesGateway ways found) (hother : GivesGateway ways other) : found = other := by
  cases hfound with
  | none =>
    cases hother
    rfl
  | address hgateway =>
    cases hother with
    | address hagain =>
      rw [hgateway, Option.some_inj] at hagain
      rw [Ipv4.text_injective hagain]
    | complaint hagain hinvalid =>
      rw [hgateway, Option.some_inj] at hagain
      exact absurd hagain.symm (hinvalid _)
  | complaint hgateway hinvalid =>
    cases hother with
    | address hagain =>
      rw [hgateway, Option.some_inj] at hagain
      exact absurd hagain (hinvalid _)
    | complaint hagain _ =>
      rw [hgateway, Option.some_inj] at hagain
      rw [hagain]

theorem givesGateway_readGateway (hroutes : readRoutes? text = some routes) (device : String) :
    GivesGateway (waysOut device routes) (readGateway text device) := by
  simp only [readGateway, hroutes, gatewayText?_eq]
  cases hways : waysOut device routes with
  | nil => exact .none
  | cons route rest =>
    obtain ⟨gateway, hgateway⟩ := Option.isSome_iff_exists.1 (leadsOut_of_waysOut_eq_cons hways).2.2
    simp only [List.head?_cons, Option.bind_some, hgateway]
    cases hparse : Ipv4.parse? gateway.toList with
    | some address =>
      rw [Ipv4.parse?_toList_eq_some_iff] at hparse
      exact .address (hparse ▸ hgateway)
    | none =>
      refine .complaint hgateway fun address htext ↦ ?_
      rw [Ipv4.parse?_toList_eq_some_iff.2 htext] at hparse
      cases hparse

/-- Listings with the same ways out of a device give it the same gateway, whatever other routes they
have, and what they give is what its ways out give. -/
theorem readGateway_heeds_waysOut {text other : List Char} {routes otherRoutes : List RouteEntry}
    (hroutes : readRoutes? text = some routes) (hother : readRoutes? other = some otherRoutes)
    (device : String) (hsame : waysOut device routes = waysOut device otherRoutes) :
    readGateway text device = readGateway other device ∧
      ∀ found, readGateway text device = found ↔ GivesGateway (waysOut device routes) found := by
  have hgives := givesGateway_readGateway hroutes device
  have hagain := givesGateway_readGateway hother device
  refine ⟨hgives.unique (hsame ▸ hagain), fun found ↦ ⟨?_, hgives.unique⟩⟩
  rintro rfl
  exact hgives

theorem readRoutes?_pretty (listing : Json.Value) :
    readRoutes? listing.pretty.toList = listing.items? RouteEntry.ofJson? := by
  rw [readRoutes?, Json.parse?_pretty, Option.bind_eq_bind, Option.bind_some]

namespace Sample

/-- The default route through a device by a gateway. -/
def routeBy (gateway device : String) : Json.Value :=
  .record [("dst", .text "default"), ("gateway", .text gateway), ("dev", .text device)]

def onlyRoute : Json.Value := .array [routeBy "172.17.0.1" "eth0"]

/-- A listing in which the route of one device stands between routes of others, one that has no
gateway and some with gateways that are no addresses. -/
def manyRoutes : Json.Value :=
  .array [
    routeBy "10.9.0.1" "eth1",
    .record [("dst", .text "default"), ("dev", .text "eth0")],
    .record [("dst", .text "10.0.0.0/8"), ("gateway", .text "nowhere"), ("dev", .text "eth0")],
    routeBy "172.17.0.1" "eth0",
    routeBy "nowhere" "eth2"]

end Sample

/-- The other routes of a longer listing do not change the gateway of a device. -/
theorem readGateway_heeds_waysOut_between_others :
    readGateway Sample.manyRoutes.pretty.toList "eth0" =
        readGateway Sample.onlyRoute.pretty.toList "eth0" ∧
      readGateway Sample.manyRoutes.pretty.toList "eth0" = .ok (some (.ofBytes 172 17 0 1)) := by
  have hmany : readRoutes? Sample.manyRoutes.pretty.toList = some [
      ⟨some "default", some "10.9.0.1", some "eth1"⟩,
      ⟨some "default", none, some "eth0"⟩,
      ⟨some "10.0.0.0/8", some "nowhere", some "eth0"⟩,
      ⟨some "default", some "172.17.0.1", some "eth0"⟩,
      ⟨some "default", some "nowhere", some "eth2"⟩] :=
    (readRoutes?_pretty Sample.manyRoutes).trans rfl
  have honly : readRoutes? Sample.onlyRoute.pretty.toList = some [
      ⟨some "default", some "172.17.0.1", some "eth0"⟩] :=
    (readRoutes?_pretty Sample.onlyRoute).trans rfl
  have hheeds := readGateway_heeds_waysOut hmany honly "eth0" rfl
  exact ⟨hheeds.1, (hheeds.2 _).2 (.address rfl)⟩

end MicroVm.Network
