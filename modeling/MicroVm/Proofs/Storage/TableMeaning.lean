import Mathlib.Algebra.Ring.Nat
import MicroVm.Proofs.Storage.DeviceNames
import MicroVm.Proofs.Storage.TableText

/-!
# What a device reads

A table gives each sector of a device to the segment that covers it. Segments that follow one
another without a gap cover each sector once. A device that is a mapping is read through its table,
and any other device is read as it is.
-/

namespace MicroVm.Storage

/-- Where a sector is read from as long as nothing was written. -/
inductive Source
  | sector (device : String) (number : ℕ)
  | zeros
  deriving DecidableEq, Repr

/-- Whether a sector lies in a segment. -/
def Segment.Covers (segment : Segment) (sector : ℕ) : Prop :=
  segment.start ≤ sector ∧ sector < segment.start + segment.length

instance (segment : Segment) (sector : ℕ) : Decidable (segment.Covers sector) :=
  inferInstanceAs (Decidable (_ ∧ _))

/-- Where a segment reads one of its sectors from. -/
def Segment.source (segment : Segment) (sector : ℕ) : Source :=
  match segment.target with
  | .linear device offset => .sector device (offset + (sector - segment.start))
  | .zero => .zeros
  | .snapshot origin _ _ => .sector origin (sector - segment.start)

namespace Table

/-- Where the segments that cover a sector read it from. -/
def sources (table : Table) (sector : ℕ) : List Source :=
  (table.filter fun segment ↦ segment.Covers sector).map fun segment ↦ segment.source sector

/-- Whether each segment begins where the one before it ends. -/
def IsContiguous : (start : ℕ) → Table → Prop
  | _, [] => True
  | start, segment :: table =>
    segment.start = start ∧ IsContiguous (start + segment.length) table

/-- The number of sectors of all segments. -/
def sectors (table : Table) : ℕ := (table.map Segment.length).sum

variable {table : Table} {start : ℕ}

/-- Segments without a gap cover each sector once. -/
theorem IsContiguous.countP_covers (hcontiguous : IsContiguous start table) (sector : ℕ) :
    table.countP (fun segment ↦ segment.Covers sector) =
      if start ≤ sector ∧ sector < start + table.sectors then 1 else 0 := by
  induction table generalizing start with
  | nil =>
    have hnone : ¬ (start ≤ sector ∧ sector < start + 0) := by omega
    exact (if_neg hnone).symm
  | cons segment table ih =>
    obtain ⟨rfl, hlater⟩ := hcontiguous
    have hsum : sectors (segment :: table) = segment.length + sectors table := List.sum_cons
    rw [hsum]
    by_cases hfirst : segment.Covers sector
    · have hbounds : segment.start ≤ sector ∧ sector < segment.start + segment.length := hfirst
      rw [List.countP_cons_of_pos, ih hlater, if_neg (by omega), if_pos (by omega)]
      exact decide_eq_true hfirst
    · have hbounds : ¬ (segment.start ≤ sector ∧ sector < segment.start + segment.length) := hfirst
      rw [List.countP_cons_of_neg, ih hlater]
      · exact if_congr (by omega) rfl rfl
      · exact mt of_decide_eq_true hfirst

end Table

/-- The mappings that are created, each with the table that its text stands for. -/
def mappingsOf (requests : List DeviceRequest) : List (String × Table) :=
  requests.filterMap fun
    | .createMapping name text => (Table.ofText? text).map (name, ·)
    | _ => none

theorem mappingsOf_createMapping {name text : String} {table : Table}
    {requests : List DeviceRequest} (htable : Table.ofText? text = some table) :
    mappingsOf (.createMapping name text :: requests) = (name, table) :: mappingsOf requests := by
  apply List.filterMap_cons_some
  exact congrArg (Option.map fun table ↦ (name, table)) htable

/-- Where a sector of a device is read from when given mappings are there. -/
def readThrough (mappings : List (String × Table)) (device : String) (sector : ℕ) : List Source :=
  match mappings.find? fun mapping ↦ mapperPath mapping.1 = device with
  | some (_, table) => table.sources sector
  | none => [.sector device sector]

/-! ## The tables of a root device -/

section Tables

variable {base origin store : String} {baseSectors totalSectors chunkSectors sector : ℕ}

/-- The table of a base that is filled up with zeros. -/
def paddedTable (base : String) (baseSectors totalSectors : ℕ) : Table :=
  [⟨0, baseSectors, .linear base 0⟩, ⟨baseSectors, totalSectors - baseSectors, .zero⟩]

theorem ofText?_paddedTable (hbase : Text.IsWord base.toList) :
    Table.ofText? (paddedTable base baseSectors totalSectors).text =
      some (paddedTable base baseSectors totalSectors) := by
  apply Table.ofText?_text _ (List.cons_ne_nil _ _)
  have hzero : ∀ device ∈ Target.zero.devices, Text.IsWord device.toList := nofun
  exact List.forall_mem_cons.2
    ⟨List.forall_mem_singleton.2 hbase, List.forall_mem_singleton.2 hzero⟩

theorem ofText?_snapshotTable (horigin : Text.IsWord origin.toList)
    (hstore : Text.IsWord store.toList) :
    Table.ofText? (snapshotTable totalSectors origin store chunkSectors).text =
      some (snapshotTable totalSectors origin store chunkSectors) := by
  apply Table.ofText?_text _ (List.cons_ne_nil _ _)
  exact List.forall_mem_singleton.2
    (List.forall_mem_cons.2 ⟨horigin, List.forall_mem_singleton.2 hstore⟩)

theorem isContiguous_snapshotTable :
    (snapshotTable totalSectors origin store chunkSectors).IsContiguous 0 := ⟨rfl, trivial⟩

theorem sectors_snapshotTable :
    (snapshotTable totalSectors origin store chunkSectors).sectors = totalSectors :=
  List.sum_singleton

theorem isContiguous_paddedTable :
    (paddedTable base baseSectors totalSectors).IsContiguous 0 :=
  ⟨rfl, (Nat.zero_add baseSectors).symm, trivial⟩

theorem sectors_paddedTable (hfits : baseSectors ≤ totalSectors) :
    (paddedTable base baseSectors totalSectors).sectors = totalSectors := by
  simp only [Table.sectors, paddedTable, List.map_cons, List.map_nil, List.sum_cons, List.sum_nil]
  omega

/-- The padded base has the sectors of the base, and zeros behind them. -/
theorem sources_paddedTable (hfits : baseSectors ≤ totalSectors) (hsector : sector < totalSectors) :
    (paddedTable base baseSectors totalSectors).sources sector =
      [if sector < baseSectors then .sector base sector else .zeros] := by
  unfold Table.sources paddedTable
  by_cases hbase : sector < baseSectors
  · have hfirst : (⟨0, baseSectors, .linear base 0⟩ : Segment).Covers sector :=
      ⟨Nat.zero_le sector, by rwa [Nat.zero_add]⟩
    have hlast : ¬ (⟨baseSectors, totalSectors - baseSectors, .zero⟩ : Segment).Covers sector :=
      fun hcovers ↦ Nat.not_le_of_lt hbase hcovers.1
    rw [List.filter_cons_of_pos, List.filter_cons_of_neg, if_pos hbase]
    · exact congrArg (fun number ↦ [Source.sector base number]) (Nat.zero_add sector)
    · exact mt of_decide_eq_true hlast
    · exact decide_eq_true hfirst
  · have hfirst : ¬ (⟨0, baseSectors, .linear base 0⟩ : Segment).Covers sector := by
      rintro ⟨-, hlt⟩
      exact hbase (by rwa [Nat.zero_add] at hlt)
    have hlast : (⟨baseSectors, totalSectors - baseSectors, .zero⟩ : Segment).Covers sector := by
      refine ⟨Nat.le_of_not_lt hbase, ?_⟩
      rwa [Nat.add_sub_cancel' hfits]
    rw [List.filter_cons_of_neg, List.filter_cons_of_pos, if_neg hbase]
    · rfl
    · exact decide_eq_true hlast
    · exact mt of_decide_eq_true hfirst

end Tables

/-! ## Laying a root device out -/

/-- A request without the text of a table. -/
def DeviceRequest.withoutTable : DeviceRequest → DeviceRequest
  | .createMapping name _ => .createMapping name ""
  | request => request

namespace Chain

/-- What is asked for to make the mappings of a machine and to adapt its filesystem. -/
def layout (chain : Chain) (base : String) (baseSectors : ℕ) (overlay : String)
    (overlaySectors : ℕ) : List DeviceRequest :=
  let snapshot (origin : String) : DeviceRequest := .createMapping (snapshotName chain.uid)
    (snapshotTable overlaySectors origin overlay chain.chunkSectors).text
  if baseSectors < overlaySectors then [
    .createMapping (paddedBaseName chain.uid) (paddedTable base baseSectors overlaySectors).text,
    snapshot chain.paddedBasePath,
    .checkFilesystem chain.devicePath,
    .growFilesystem chain.devicePath]
  else [snapshot base, .checkFilesystem chain.devicePath]

/-- Whether requests lay the root device of a machine out as a base with zeros after it, under a
snapshot that is written to an overlay. -/
structure LaysOut (chain : Chain) (base : String) (baseSectors : ℕ) (overlay : String)
    (overlaySectors : ℕ) (requests : List DeviceRequest) : Prop where
  /-- The padded base comes first and the growth last, both under a larger overlay only. -/
  order : requests.map DeviceRequest.withoutTable =
    (if baseSectors < overlaySectors then [.createMapping (paddedBaseName chain.uid) ""] else []) ++
      [.createMapping (snapshotName chain.uid) "", .checkFilesystem chain.devicePath] ++
        if baseSectors < overlaySectors then [.growFilesystem chain.devicePath] else []
  /-- Every text is that of a table. -/
  readable : ∀ name text, .createMapping name text ∈ requests → (Table.ofText? text).isSome
  contiguous : ∀ mapping ∈ mappingsOf requests, mapping.2.IsContiguous 0
  sectors : ∀ mapping ∈ mappingsOf requests, mapping.2.sectors = overlaySectors
  /-- No sector is covered twice or left out. -/
  countP_covers : ∀ mapping ∈ mappingsOf requests, ∀ sector,
    mapping.2.countP (fun segment ↦ segment.Covers sector) =
      if sector < overlaySectors then 1 else 0
  /-- The snapshot is on the base with zeros after it. -/
  snapshot : ∃ earlier origin, mappingsOf requests = earlier ++ [(snapshotName chain.uid,
      [⟨0, overlaySectors, .snapshot origin overlay chain.chunkSectors⟩])] ∧
    ∀ sector < overlaySectors, readThrough earlier origin sector =
      [if sector < baseSectors then .sector base sector else .zeros]

variable (chain : Chain) {base overlay : String} {baseSectors overlaySectors : ℕ}

theorem isWord_paddedBasePath (huid : Text.HasNoBlank chain.uid.toList) :
    Text.IsWord chain.paddedBasePath.toList := by
  have hfront : Text.IsWord "/dev/mapper/fcspawn-".toList := ⟨by decide, by decide⟩
  have hending : Text.HasNoBlank "-base".toList := by decide
  rw [paddedBasePath, mapperPath_paddedBaseName, String.toList_append, String.toList_append]
  exact (hfront.append huid).append hending

/-- Whether the paths in the tables of a machine are words. -/
structure HasWords (chain : Chain) (base overlay : String) : Prop where
  base : Text.IsWord base.toList
  overlay : Text.IsWord overlay.toList
  uid : Text.HasNoBlank chain.uid.toList

variable {chain}

/-- The mappings that a layout makes. -/
theorem mappingsOf_layout (hwords : chain.HasWords base overlay) :
    mappingsOf (chain.layout base baseSectors overlay overlaySectors) =
      if baseSectors < overlaySectors then [
        (paddedBaseName chain.uid, paddedTable base baseSectors overlaySectors),
        (snapshotName chain.uid,
          snapshotTable overlaySectors chain.paddedBasePath overlay chain.chunkSectors)]
      else [(snapshotName chain.uid,
        snapshotTable overlaySectors base overlay chain.chunkSectors)] := by
  have hpadded := chain.isWord_paddedBasePath hwords.uid
  rw [layout]
  split
  · rw [mappingsOf_createMapping (ofText?_paddedTable hwords.base),
      mappingsOf_createMapping (ofText?_snapshotTable hpadded hwords.overlay)]
    rfl
  · rw [mappingsOf_createMapping (ofText?_snapshotTable hwords.base hwords.overlay)]
    rfl

/-- Every table that is laid out covers its device without gaps. -/
theorem isContiguous_of_mem_layout (hwords : chain.HasWords base overlay)
    (hfits : baseSectors ≤ overlaySectors) {mapping : String × Table}
    (hmapping : mapping ∈ mappingsOf (chain.layout base baseSectors overlay overlaySectors)) :
    mapping.2.IsContiguous 0 ∧ mapping.2.sectors = overlaySectors := by
  rw [mappingsOf_layout hwords] at hmapping
  split at hmapping
  · obtain rfl | hlast := List.mem_cons.1 hmapping
    · exact ⟨isContiguous_paddedTable, sectors_paddedTable hfits⟩
    · obtain rfl := List.mem_singleton.1 hlast
      exact ⟨isContiguous_snapshotTable, sectors_snapshotTable⟩
  · obtain rfl := List.mem_singleton.1 hmapping
    exact ⟨isContiguous_snapshotTable, sectors_snapshotTable⟩

/-- All tables of the layout can be read. -/
theorem isSome_ofText?_of_mem_layout (hwords : chain.HasWords base overlay) {name text : String}
    (hcreated : .createMapping name text ∈ chain.layout base baseSectors overlay overlaySectors) :
    (Table.ofText? text).isSome := by
  have hpadded := chain.isWord_paddedBasePath hwords.uid
  rw [layout] at hcreated
  split at hcreated
  · obtain hfirst | hlater := List.mem_cons.1 hcreated
    · cases hfirst
      exact Option.isSome_of_eq_some (ofText?_paddedTable hwords.base)
    · obtain hsecond | hrest := List.mem_cons.1 hlater
      · cases hsecond
        exact Option.isSome_of_eq_some (ofText?_snapshotTable hpadded hwords.overlay)
      · simp at hrest
  · obtain hfirst | hlater := List.mem_cons.1 hcreated
    · cases hfirst
      exact Option.isSome_of_eq_some (ofText?_snapshotTable hwords.base hwords.overlay)
    · cases List.mem_singleton.1 hlater

/-- Through the padded base one reads the base, and zeros behind it. -/
theorem readThrough_padded (hfits : baseSectors ≤ overlaySectors) {sector : ℕ}
    (hsector : sector < overlaySectors) :
    readThrough [(paddedBaseName chain.uid, paddedTable base baseSectors overlaySectors)]
        chain.paddedBasePath sector =
      [if sector < baseSectors then .sector base sector else .zeros] := by
  rw [readThrough, List.find?_cons_of_pos]
  · exact sources_paddedTable hfits hsector
  · exact decide_eq_true rfl

theorem laysOut_layout (hfits : baseSectors ≤ overlaySectors)
    (hwords : chain.HasWords base overlay) :
    chain.LaysOut base baseSectors overlay overlaySectors
      (chain.layout base baseSectors overlay overlaySectors) where
  order := by
    rw [layout]
    split
    · rfl
    · rfl
  readable name text hcreated := isSome_ofText?_of_mem_layout hwords hcreated
  contiguous mapping hmapping := (isContiguous_of_mem_layout hwords hfits hmapping).1
  sectors mapping hmapping := (isContiguous_of_mem_layout hwords hfits hmapping).2
  countP_covers mapping hmapping sector := by
    obtain ⟨hcontiguous, hsectors⟩ := isContiguous_of_mem_layout hwords hfits hmapping
    rw [hcontiguous.countP_covers, hsectors, Nat.zero_add]
    exact if_congr (and_iff_right (Nat.zero_le sector)) rfl rfl
  snapshot := by
    rw [mappingsOf_layout hwords]
    split
    next hgrows =>
      refine ⟨[_], chain.paddedBasePath, rfl, ?_⟩
      intro sector hsector
      exact readThrough_padded hfits hsector
    next hequal =>
      refine ⟨[], base, rfl, ?_⟩
      intro sector hsector
      rw [if_pos (Nat.lt_of_lt_of_le hsector (Nat.le_of_not_lt hequal))]
      rfl

end Chain

end MicroVm.Storage
