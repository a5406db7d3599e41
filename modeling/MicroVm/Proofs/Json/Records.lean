import Mathlib.Data.List.Nodup
import MicroVm.Json.Record
import MicroVm.Proofs.Text.Items

/-!
# Reading records back

A record that was written with all its fields, each once, gives each field its value when it is
read. A field that may be missing is written as `null` when it is, which no value of it is.
-/

namespace MicroVm.Json

section Values

variable {α : Type} {read : Value → Option α} {write : α → Value}

@[simp]
theorem Value.text?_text (s : String) : (Value.text s).text? = some s := rfl

theorem Value.natural?_natural {limit n : Nat} (h : n ≤ limit) :
    (Value.natural n).natural? limit = some n := by
  simp [Value.natural, Value.natural?, Number.ofNat, Number.natural?, h]

theorem Value.items?_map (h : ∀ a, read (write a) = some a) (items : List α) :
    (Value.array (items.map write)).items? read = some items := by
  rw [Value.items?]
  exact Text.mapM_map_eq_some fun a _ ↦ h a

end Values

/-! ## Fields -/

section Fields

variable {members : List (String × Value)} {name : String} {value : Value} {α : Type}
  {read : Value → Option α} {write : α → Value} {default : α}

/-- The fields of a record that was written as an object. -/
def Fields.written (members : List (String × Value)) : Fields :=
  ⟨members.map fun (name, value) ↦ (name, some value), false⟩

theorem Fields.get?_written : (written members).get? name = members.lookup name := by
  have hslots : (written members).slots.lookup name = (members.lookup name).map some := by
    induction members with
    | nil => rfl
    | cons member members ih =>
      obtain ⟨key, value⟩ := member
      change List.lookup name ((key, some value) :: (written members).slots) = _
      rw [List.lookup_cons, List.lookup_cons, ih]
      cases name == key <;> rfl
  rw [get?, hslots]
  cases members.lookup name <;> rfl

@[simp]
theorem Fields.required_written :
    (written members).required name read = (members.lookup name).bind read := by
  rw [required, get?_written]
  rfl

@[simp]
theorem Fields.withDefault_written : (written members).withDefault name read default =
    (members.lookup name).elim (some default) read := by
  rw [withDefault, get?_written]
  cases members.lookup name <;> rfl

/-- Reads a value that may be `null`. -/
def Value.unlessNull (read : Value → Option α) : Value → Option (Option α)
  | .null => some none
  | value => (read value).map some

@[simp]
theorem Fields.optional_written : (written members).optional name read =
    (members.lookup name).elim (some none) (Value.unlessNull read) := by
  rw [optional, get?_written]
  cases members.lookup name with
  | none => rfl
  | some value => cases value <;> rfl

/-- An object may leave out what may be missing, so that the two readers agree on it. -/
@[simp]
theorem Fields.nullable_written : (written members).nullable name read =
    (members.lookup name).elim (some none) (Value.unlessNull read) :=
  Fields.optional_written

/-- An optional value is read back when nothing is written as `null`. -/
theorem Value.unlessNull_ofOption (hread : ∀ a, read (write a) = some a)
    (hnull : ∀ a, write a ≠ .null) (found : Option α) :
    unlessNull read (.ofOption (found.map write)) = some found := by
  cases found with
  | none => rfl
  | some a =>
    rw [Option.map_some, ofOption, unlessNull, hread, Option.map_some]
    exact hnull a

end Fields

/-- The members of a written record with a given name, to be read. -/
theorem membersNamed_map (name : String) (members : List (String × Value)) :
    membersNamed name (members.map fun (name, value) ↦ (some name, value)) =
      (members.filter fun member ↦ member.1 = name).map Prod.snd := by
  induction members with
  | nil => rfl
  | cons member members ih =>
    obtain ⟨key, value⟩ := member
    simp only [membersNamed, List.map_cons, List.filterMap_cons, Option.some.injEq] at ih ⊢
    rw [ih, List.filter_cons]
    by_cases hkey : key = name
    · simp [hkey]
    · simp [hkey]

theorem theMember?_of_mem {members : List (String × Value)} {name : String} {value : Value}
    (h : (members.map Prod.fst).Nodup) (hmem : (name, value) ∈ members) :
    theMember? name (members.map fun (name, value) ↦ (some name, value)) =
      some (name, some value) := by
  have hnamed : (members.filter fun member ↦ member.1 = name) = [(name, value)] := by
    have hunique := List.inj_on_of_nodup_map h
    apply List.perm_singleton.1
    apply (List.perm_ext_iff_of_nodup (h.of_map.filter _) (List.nodup_singleton _)).2
    intro member
    simp only [List.mem_filter, decide_eq_true_eq, List.mem_singleton]
    constructor
    · exact fun ⟨hmember, hname⟩ ↦ hunique hmember hmem hname
    · rintro rfl
      exact ⟨hmem, rfl⟩
  rw [theMember?, membersNamed_map, hnamed]
  rfl

/-- A record that was written is read as its own fields. -/
@[simp]
theorem Value.fields?_record {members : List (String × Value)} {names : List String}
    (hnames : members.map Prod.fst = names) (h : names.Nodup) :
    (Value.record members).fields? names = some (.written members) := by
  subst hnames
  have hkeys : (members.map fun (name, value) ↦ (some name, value)).all
      (fun member ↦ member.1.isSome) = true := by
    simp
  have hfields : ((members.map Prod.fst).mapM fun name ↦
      theMember? name (members.map fun (name, value) ↦ (some name, value))) =
        some (Fields.written members).slots := by
    rw [List.mapM_map]
    exact Text.mapM_eq_some_map fun member hmem ↦ theMember?_of_mem h hmem
  rw [Value.record, Value.fields?, if_pos hkeys, hfields]
  rfl

end MicroVm.Json
