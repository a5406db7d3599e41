import Mathlib.Logic.Function.Iterate
import MicroVm.Machine.Record
import MicroVm.Proofs.Json.Records
import MicroVm.Proofs.Json.RoundTrip
import MicroVm.Proofs.Network.AddressText
import MicroVm.Proofs.Text.Encoding
import MicroVm.Proofs.Time.TimestampText

/-!
# The format of records

A record that was saved is read back as it was, whatever its texts, numbers, addresses, ports and
moments are, and whichever of its parts are missing. So a text that holds a record in any other
form takes the one form of that record when it is saved, and keeps it from then on.
-/

namespace MicroVm

/-! ## Annotations -/

namespace Annotations

theorem insertEntry_of_forall_lt {key : String} {entries : List (String × String)}
    (h : ∀ entry ∈ entries, entry.1 < key) (value : String) :
    insertEntry key value entries = entries ++ [(key, value)] := by
  induction entries with
  | nil => rfl
  | cons entry entries ih =>
    obtain ⟨other, held⟩ := entry
    have hother : other < key := h (other, held) List.mem_cons_self
    have hrest := ih fun entry hmem ↦ h entry (List.mem_cons_of_mem _ hmem)
    rw [insertEntry, if_neg (String.lt_asymm hother), if_neg (String.ne_of_lt hother).symm, hrest]
    rfl

/-- Entries that are inserted in the order of their keys stay in this order. -/
theorem entries_foldl_insert (entries : List (String × String)) (annotations : Annotations)
    (h : (annotations.entries ++ entries).Pairwise fun a b ↦ a.1 < b.1) :
    (entries.foldl (fun annotations entry ↦ annotations.insert entry.1 entry.2)
      annotations).entries = annotations.entries ++ entries := by
  induction entries generalizing annotations with
  | nil => exact (List.append_nil _).symm
  | cons entry entries ih =>
    have hlast : (annotations.insert entry.1 entry.2).entries =
        annotations.entries ++ [entry] :=
      insertEntry_of_forall_lt (fun other hmem ↦
        (List.pairwise_append.1 h).2.2 other hmem entry List.mem_cons_self) _
    have hentries : (annotations.insert entry.1 entry.2).entries ++ entries =
        annotations.entries ++ entry :: entries := by
      rw [hlast, List.append_assoc, List.singleton_append]
    rw [List.foldl_cons, ih _ (hentries ▸ h), hentries]

/-- Entries in order are a map as they stand. -/
theorem ofList_entries (annotations : Annotations) : ofList annotations.entries = annotations :=
  Annotations.ext (entries_foldl_insert annotations.entries empty annotations.ordered)

end Annotations

namespace Network

theorem Protocol.parse?_text (protocol : Protocol) : parse? protocol.text = some protocol := by
  cases protocol <;> rfl

theorem PortMapping.portOfJson?_natural (port : UInt16) :
    portOfJson? (.natural port.toNat) = some port := by
  have hport : port.toNat ≤ 0xffff := Nat.le_of_lt_succ port.toNat_lt
  rw [portOfJson?, Json.Value.natural?_natural hport, Option.map_some, UInt16.ofNat_toNat]

theorem PortMapping.ofJson?_toJson (mapping : PortMapping) :
    ofJson? mapping.toJson = some mapping := by
  have hproto : (Json.Value.text mapping.protocol.text).case? = some mapping.protocol.text := rfl
  have haddress := Json.Value.unlessNull_ofOption Json.Value.text?_text (fun _ ↦ nofun)
    mapping.hostAddress
  simp [toJson, ofJson?, List.lookup_cons, haddress, portOfJson?_natural, hproto,
    Protocol.parse?_text]

end Network

namespace Machine

open MicroVm.Network

/-! ## The parts of a record -/

/-- Annotations are read back with their keys in order. -/
theorem annotationsOfJson?_annotationsToJson (annotations : Annotations) :
    annotationsOfJson? (annotationsToJson annotations) = some annotations := by
  have hentries := Text.mapM_eq_some_map
    fun entry (_ : entry ∈ annotations.entries) ↦ congrArg some (Eq.refl entry)
  simp only [annotationsToJson, Json.Value.record, annotationsOfJson?, List.map_map,
    List.mapM_map]
  change (annotations.entries.mapM fun entry ↦ some entry) >>= _ = _
  rw [hentries]
  exact congrArg some ((congrArg _ (List.map_id _)).trans (Annotations.ofList_entries annotations))

theorem timestampOfJson?_timestampToJson (t : Timestamp) :
    timestampOfJson? (timestampToJson t) = some t := by
  rw [timestampOfJson?, timestampToJson, Json.Value.text?_text, Option.bind_eq_bind,
    Option.bind_some, Timestamp.parse?_text]

theorem addressOfJson?_text (address : Ipv4) :
    addressOfJson? (.text address.text) = some address := by
  rw [addressOfJson?, Json.Value.text?_text, Option.bind_eq_bind, Option.bind_some,
    Ipv4.parse?_text]

theorem items?_portsToJson (ports : List PortMapping) :
    (portsToJson ports).items? PortMapping.ofJson? = some ports :=
  Json.Value.items?_map PortMapping.ofJson?_toJson ports

theorem items?_addressesToJson (addresses : List Ipv4) :
    (addressesToJson addresses).items? addressOfJson? = some addresses :=
  Json.Value.items?_map addressOfJson?_text addresses

theorem Metadata.ofJson?_toJson (metadata : Metadata) :
    ofJson? metadata.toJson = some metadata := by
  simp [toJson, ofJson?, List.lookup_cons, annotationsOfJson?_annotationsToJson,
    timestampOfJson?_timestampToJson]

/-- A specification is read back from what is written of it. -/
theorem Spec.ofJson?_toJson (spec : Spec) : ofJson? spec.toJson = some spec := by
  have hcpus := Json.Value.natural?_natural spec.cpus_le
  have hmemory := Json.Value.natural?_natural spec.memoryMib_le
  have hdisk := Json.Value.natural?_natural spec.diskSize_le
  have hlimits := And.intro spec.cpus_le (And.intro spec.memoryMib_le spec.diskSize_le)
  have hssh : (Json.Value.bool spec.ssh).bool? = some spec.ssh := rfl
  simp only [toJson, ofJson?]
  simp [List.lookup_cons, imageNameOfJson?, kernelOfJson?, declaredPortsOfJson?, hcpus, hmemory,
    hdisk, hlimits, hssh, items?_portsToJson]

theorem Content.ofJson?_toJson (content : Content) : ofJson? content.toJson = some content := by
  have hsize := Json.Value.natural?_natural content.size_le
  simp [toJson, ofJson?, List.lookup_cons, hsize, content.size_le]

theorem NetworkStatus.ofJson?_toJson (network : NetworkStatus) :
    ofJson? network.toJson = some network := by
  simp [toJson, ofJson?, List.lookup_cons, items?_portsToJson, items?_addressesToJson]

theorem runtimeOfJson?_record (id : String) :
    runtimeOfJson? (.record [("id", .text id)]) = some id := by
  simp [runtimeOfJson?]

/-- A status is read back from what is written of it. -/
theorem Status.ofJson?_toJson (status : Status) : ofJson? status.toJson = some status := by
  have hruntime := Json.Value.unlessNull_ofOption runtimeOfJson?_record (fun _ ↦ nofun)
    status.runtime
  have hstart := Json.Value.unlessNull_ofOption timestampOfJson?_timestampToJson (fun _ ↦ nofun)
    status.startTime
  have hnetwork := Json.Value.unlessNull_ofOption NetworkStatus.ofJson?_toJson (fun _ ↦ nofun)
    status.network
  have hrunning : (Json.Value.bool status.isRunning).bool? = some status.isRunning := rfl
  simp [toJson, ofJson?, List.lookup_cons, hruntime, hstart, hnetwork, hrunning,
    Content.ofJson?_toJson]

/-- Records are read back from JSON values. -/
theorem Record.ofJson?_toJson (record : Record) : ofJson? record.toJson = some record := by
  simp [toJson, ofJson?, List.lookup_cons, Metadata.ofJson?_toJson, Spec.ofJson?_toJson,
    Status.ofJson?_toJson]

/-! ## Records -/

namespace Record

/-- A record is read back from its text. -/
theorem parse?_text (record : Record) : parse? record.text.toList = some record := by
  rw [parse?, text, Json.parse?_pretty, Option.bind_eq_bind, Option.bind_some, ofJson?_toJson]

/-- The record that the content of a file holds. -/
def ofBytes? (content : List UInt8) : Option Record := Text.decodeStrict? content >>= parse?

theorem ofBytes?_bytesOfText (record : Record) :
    ofBytes? (Text.bytesOfText record.text) = some record := by
  rw [ofBytes?, Text.decodeStrict?_bytesOfText, Option.bind_eq_bind, Option.bind_some, parse?_text]

theorem ofBytes?_nil : ofBytes? [] = none := by
  rw [ofBytes?, Text.decodeStrict?]
  rfl

/-- The content of a file after its record was loaded and saved. A file without a record stays as it
is. -/
def resaved (content : List UInt8) : List UInt8 :=
  match ofBytes? content with
  | some record => Text.bytesOfText record.text
  | none => content

/-- The first save gives the content its form, and further ones keep it. -/
theorem iterate_resaved {content : List UInt8} {record : Record}
    (h : ofBytes? content = some record) (cycles : Nat) :
    resaved^[cycles + 1] content = Text.bytesOfText record.text := by
  induction cycles with
  | zero =>
    change resaved content = _
    rw [resaved, h]
  | succ cycles ih => rw [Function.iterate_succ_apply', ih, resaved, ofBytes?_bytesOfText]

end Record

end Machine

end MicroVm
