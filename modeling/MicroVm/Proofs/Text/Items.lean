import Mathlib.Data.List.Forall2

/-!
# Items read one by one

A row of items is read when each of them is, and what is found stands in the same order.
-/

namespace MicroVm.Text

variable {α β ε : Type} {items : List α} {values : List β}

/-! ## Results without a fault -/

section Results

variable {result : Except ε α} {b : β}

theorem map_eq_ok_iff {f : α → β} : result.map f = .ok b ↔ ∃ a, result = .ok a ∧ f a = b := by
  cases result with
  | error fault => exact iff_of_false nofun fun ⟨_, hresult, _⟩ ↦ nomatch hresult
  | ok a =>
    rw [Except.map, Except.ok.injEq]
    exact ⟨fun h ↦ ⟨a, rfl, h⟩, fun ⟨_, hresult, h⟩ ↦ Except.ok.inj hresult ▸ h⟩

theorem bind_eq_ok_iff {next : α → Except ε β} :
    result >>= next = .ok b ↔ ∃ a, result = .ok a ∧ next a = .ok b := by
  cases result with
  | error fault => exact iff_of_false nofun fun ⟨_, hresult, _⟩ ↦ nomatch hresult
  | ok a => exact ⟨fun h ↦ ⟨a, rfl, h⟩, fun ⟨_, hresult, h⟩ ↦ Except.ok.inj hresult ▸ h⟩

/-- A fault is worded otherwise, and a value stays. -/
theorem mapError_eq_ok_iff {ε' : Type} {f : ε → ε'} {a : α} :
    result.mapError f = .ok a ↔ result = .ok a := by
  cases result with
  | error fault => exact iff_of_false nofun nofun
  | ok a' => rw [Except.mapError, Except.ok.injEq, Except.ok.injEq]

end Results

theorem mapM_eq_ok_iff {read : α → Except ε β} :
    items.mapM read = .ok values ↔
      List.Forall₂ (fun item value ↦ read item = .ok value) items values := by
  induction items generalizing values with
  | nil =>
    rw [List.forall₂_nil_left_iff, eq_comm (a := values)]
    exact Except.ok.injEq [] values ▸ Iff.rfl
  | cons item items ih =>
    simp only [List.mapM_cons, bind_eq_ok_iff, ih, List.forall₂_cons_left_iff]
    constructor
    · rintro ⟨value, hvalue, later, hlater, hvalues⟩
      exact ⟨value, later, hvalue, hlater, (Except.ok.inj hvalues).symm⟩
    · rintro ⟨value, later, hvalue, hlater, rfl⟩
      exact ⟨value, hvalue, later, hlater, rfl⟩

/-- Items that are all read are read one by one. -/
theorem mapM_eq_some_map {read : α → Option β} {found : α → β}
    (h : ∀ a ∈ items, read a = some (found a)) : items.mapM read = some (items.map found) := by
  induction items with
  | nil => rfl
  | cons item items ih =>
    have hitem := h item List.mem_cons_self
    have hitems := ih fun a hmem ↦ h a (List.mem_cons_of_mem _ hmem)
    simp only [List.mapM_cons, hitem, hitems, Option.pure_def, Option.bind_eq_bind,
      Option.bind_some, List.map_cons]

/-- Items that are read back one by one are all read back. -/
theorem mapM_map_eq_some {write : α → β} {read : β → Option α}
    (hread : ∀ item ∈ items, read (write item) = some item) :
    (items.map write).mapM read = some items := by
  have hitems : ∀ item ∈ items, (read ∘ write) item = some (id item) := hread
  rw [List.mapM_map]
  exact (mapM_eq_some_map hitems).trans (congrArg some items.map_id)

/-! ## Rows side by side -/

section Rows

variable {R : α → β → Prop}

theorem exists_of_mem_left (h : List.Forall₂ R items values) {item : α} (hmem : item ∈ items) :
    ∃ value, R item value := by
  induction h with
  | nil => cases hmem
  | cons hfirst _ ih =>
    obtain rfl | hlater := List.mem_cons.1 hmem
    · exact ⟨_, hfirst⟩
    · exact ih hlater

theorem exists_of_mem_right (h : List.Forall₂ R items values) {value : β}
    (hmem : value ∈ values) : ∃ item, R item value :=
  exists_of_mem_left (R := flip R) h.flip hmem

end Rows

end MicroVm.Text
