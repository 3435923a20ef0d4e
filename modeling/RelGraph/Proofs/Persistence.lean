import RelGraph.Proofs.Applicability
import RelGraph.Proofs.Document
import RelGraph.Proofs.Json.Values
import RelGraph.Record
import RelGraph.Snapshot

/-! Stored texts of snapshots and records. Writing and reading go by separate descriptions of the
format; what one writes the other reads back. A snapshot never nests deeper than the reader allows.
A record does so only by the parts of its applicability or by the values of its payload. -/

namespace RelGraph

open Datum Json

/-! ### Snapshots -/

namespace Snapshot

/-- Three texts with different names are read back. -/
theorem threeTexts?_ofJson {α : Type} {a b c : String} (hnames : [a, b, c].Nodup)
    (make : String → String → String → α) (x y z : String) :
    threeTexts? a b c make (ofJson (.obj [(a, x), (b, y), (c, z)])) = some (make x y z) := by
  rw [threeTexts?, fields?_ofJson .json hnames]
  · rfl
  · rfl

theorem node?_nodeToJson (n : Node) : node? (ofJson (nodeToJson n)) = some n :=
  threeTexts?_ofJson (by decide) Node.mk n.id n.kind n.name

theorem record?_recordToJson (e : EdgeRecord) : record? (ofJson (recordToJson e)) = some e :=
  threeTexts?_ofJson (by decide) EdgeRecord.mk e.source e.target e.relation

/-- A snapshot is read back from its written form. -/
theorem ofDatum?_toJson (s : Snapshot) : ofDatum? (ofJson s.toJson) = some s := by
  have hnodes : list? node? (ofJson (.arr (s.nodes.map nodeToJson))) = some s.nodes :=
    list?_ofJson fun n _ => node?_nodeToJson n
  have hedges : list? record? (ofJson (.arr (s.edges.map recordToJson))) = some s.edges :=
    list?_ofJson fun e _ => record?_recordToJson e
  have hnames : ["nodes", "edges"].Nodup := by decide
  rw [ofDatum?, toJson, fields?_ofJson .json hnames]
  · simp [optional?, hnodes, hedges]
  · rfl

theorem whole_threeTexts (a b c x y z : String) :
    (Json.obj [(a, x), (b, y), (c, z)]).Whole := by
  refine .obj ?_
  simp [Whole.str]

theorem depth_threeTexts_le (a b c x y z : String) :
    (Json.obj [(a, x), (b, y), (c, z)]).depth ≤ 1 := by
  refine depth_obj_le_iff.2 ⟨by decide, ?_⟩
  simp [depth]

theorem whole_toJson (s : Snapshot) : s.toJson.Whole := by
  have hnodes : (Json.arr (s.nodes.map nodeToJson)).Whole :=
    whole_arr_map fun _ _ => whole_threeTexts ..
  have hedges : (Json.arr (s.edges.map recordToJson)).Whole :=
    whole_arr_map fun _ _ => whole_threeTexts ..
  refine .obj ?_
  simp [hnodes, hedges]

/-- Objects in arrays in an object are as deep as a snapshot gets. -/
theorem depth_toJson_le (s : Snapshot) : s.toJson.depth ≤ 3 := by
  have hnodes : (Json.arr (s.nodes.map nodeToJson)).depth ≤ 2 :=
    depth_arr_map_le fun _ _ => depth_threeTexts_le ..
  have hedges : (Json.arr (s.edges.map recordToJson)).depth ≤ 2 :=
    depth_arr_map_le fun _ _ => depth_threeTexts_le ..
  refine depth_obj_le_iff.2 ⟨by decide, ?_⟩
  simp [hnodes, hedges]

/-- Every snapshot is read back from its text. -/
theorem ofText_snapshot (s : Snapshot) : ofText s.toText = .ok s := by
  have hdepth : s.toJson.depth ≤ Reader.depthLimit :=
    Nat.le_trans (depth_toJson_le s) (by decide)
  rw [ofText, toText, read?_pretty (whole_toJson s) hdepth, Option.bind_some, ofDatum?_toJson]

end Snapshot

/-! ### Records -/

/-- The payload is read back from what is written for it, and all of its numbers are whole. -/
structure Payload.Kept {π : Type} [Payload π] (p : π) : Prop where
  whole : (Payload.toJson p).Whole
  read : Payload.ofDatum? (ofJson (Payload.toJson p)) = some p

theorem Payload.kept_unit : Kept () := ⟨.null, rfl⟩

/-- A property map is kept when its values are stored values with whole numbers only. -/
theorem Payload.kept_propertyMap {m : PropertyMap}
    (h : ∀ e ∈ m.entries, e.2.Stored ∧ e.2.Whole) : Kept m where
  whole := .obj fun e he => (h e he).2
  read := PropertyMap.ofDatum?_toJson fun e he => ⟨(h e he).1, (h e he).2.finite⟩

namespace Record

variable {π : Type} [Payload π]

/-- All property values of the record are stored values with whole numbers only. -/
def WholeNumbers : Record PropertyMap → Prop
  | relationSet _ => True
  | document d => ∀ e ∈ d.payload.entries, e.2.Stored ∧ e.2.Whole

/-- A document record has a payload that is kept. -/
def Kept : Record π → Prop
  | relationSet _ => True
  | document d => Payload.Kept d.payload

theorem kept_unit (r : Record Unit) : r.Kept := by
  cases r with
  | relationSet d => exact trivial
  | document d => exact Payload.kept_unit

theorem WholeNumbers.kept {r : Record PropertyMap} (h : r.WholeNumbers) : r.Kept := by
  cases r with
  | relationSet d => exact trivial
  | document d => exact Payload.kept_propertyMap h

/-- What is written under the tag. -/
def contentToJson : Record π → Json
  | relationSet d => relationSetToJson d
  | document d => documentToJson d

theorem toJson_eq (r : Record π) : r.toJson = .obj [(r.tag, r.contentToJson)] := by
  cases r <;> rfl

theorem relationSet?_toJson (d : RelationSet.Descriptor) :
    relationSet? (ofJson (relationSetToJson d)) = some d := by
  have hrelations : strings? (ofJson (.strings d.relations)) = some d.relations :=
    strings?_ofJson d.relations
  have hnames : ["name", "relations"].Nodup := by decide
  rw [relationSet?, relationSetToJson, fields?_ofJson .json hnames]
  · simp [required?, optional?, hrelations, ofJson, string?]
  · rfl

theorem document?_toJson {d : Document.Descriptor π} (h : Payload.Kept d.payload) :
    document? (ofJson (documentToJson d)) = some d := by
  have hmatcher := Applicability.ofDatum?_toJson .json d.matcher
  have hnames : ["name", "matcher", "payload"].Nodup := by decide
  rw [document?, documentToJson, fields?_ofJson .json hnames]
  · simp [required?, hmatcher, h.read, ofJson, string?]
  · rfl

/-- A record is read back from its written form. -/
theorem ofDatum?_toJson {r : Record π} (h : r.Kept) : ofDatum? (ofJson r.toJson) = some r := by
  cases r with
  | relationSet d =>
    rw [toJson, ofJson_obj]
    simp [ofDatum?, relationSet?_toJson]
  | document d =>
    rw [toJson, ofJson_obj]
    simp [ofDatum?, document?_toJson h, documentTag, relationSetTag]

theorem whole_contentToJson {r : Record π} (h : r.Kept) : r.contentToJson.Whole := by
  cases r with
  | relationSet d =>
    have hrelations : (Json.strings d.relations).Whole := whole_strings d.relations
    refine .obj ?_
    simp [Whole.str, hrelations]
  | document d =>
    have hmatcher : d.matcher.toJson.Whole := d.matcher.whole_toJson
    have hpayload : (Payload.toJson d.payload).Whole := h.whole
    refine .obj ?_
    simp [Whole.str, hmatcher, hpayload]

theorem whole_toJson {r : Record π} (h : r.Kept) : r.toJson.Whole := by
  rw [toJson_eq]
  exact whole_member (whole_contentToJson h)

/-- The text of a record that is not too deep is read back. Its only key on top is the tag. -/
theorem read_toText {r : Record π} (h : r.Kept) (hdepth : r.toJson.depth ≤ Reader.depthLimit) :
    ofText r.toText = .ok r ∧
      Reader.read? r.toText = some (.table [(r.tag, ofJson r.contentToJson)]) := by
  have hread : Reader.read? r.toText = some (ofJson r.toJson) :=
    read?_pretty (whole_toJson h) hdepth
  constructor
  · rw [ofText, hread, Option.bind_some, ofDatum?_toJson h]
  · rw [hread, toJson_eq, ofJson_obj]
    rfl

end Record

/-! ### All formats -/

/-- Every snapshot is read back from its text, and so is every record with whole numbers only whose
text nests no deeper than the reader allows. The tag is the only key on top of a record's text. -/
theorem ofText_toText :
    (∀ s : Snapshot, Snapshot.ofText s.toText = .ok s) ∧
    (∀ r : Record Unit, r.toJson.depth ≤ 127 → Record.ofText r.toText = .ok r ∧
      ∃ content, Reader.read? r.toText = some (.table [(r.tag, content)])) ∧
    (∀ r : Record PropertyMap, r.WholeNumbers → r.toJson.depth ≤ 127 →
      Record.ofText r.toText = .ok r ∧
        ∃ content, Reader.read? r.toText = some (.table [(r.tag, content)])) := by
  refine ⟨Snapshot.ofText_snapshot, ?_, ?_⟩
  · intro r hdepth
    obtain ⟨hread, hkey⟩ := Record.read_toText r.kept_unit hdepth
    exact ⟨hread, _, hkey⟩
  · intro r hwhole hdepth
    obtain ⟨hread, hkey⟩ := Record.read_toText hwhole.kept hdepth
    exact ⟨hread, _, hkey⟩

/-- A value with the least and the greatest whole number, an empty key and escaped characters. -/
def Json.sample : Json :=
  .obj [("", .arr [.int (-9223372036854775808), .int 18446744073709551615]),
    ("text", "\"quoted\"\n\\\x01é")]

/-- A document for the model `code` or for models with the relation `calls`. -/
def Record.sample : Record PropertyMap :=
  .document ⟨"notes", .anyOf [.model "code", .allOf [.relationKinds (.ofNames ["calls"])]],
    PropertyMap.put ∅ "limits" Json.sample⟩

/-- A document without properties. -/
def Record.bareSample : Record Unit := .document ⟨"bare", .nodeKinds (.ofNames []), ()⟩

theorem ofText_toText_sample :
    Record.bareSample.toJson.depth ≤ 127 ∧
      Record.ofText Record.bareSample.toText = .ok Record.bareSample ∧
      Record.sample.WholeNumbers ∧ Record.sample.toJson.depth ≤ 127 ∧
      Record.ofText Record.sample.toText = .ok Record.sample := by
  have hbare : Record.bareSample.toJson.depth ≤ 127 := by decide
  have hdepth : Record.sample.toJson.depth ≤ 127 := by decide
  have hwhole : Record.sample.WholeNumbers := by
    intro e he
    obtain rfl : e = ("limits", Json.sample) := List.mem_singleton.1 he
    have hleast : isWritable (-9223372036854775808) = true := by decide
    have hgreatest : isWritable 18446744073709551615 = true := by decide
    constructor
    · exact ⟨by decide, ⟨hleast, hgreatest, trivial⟩, trivial, trivial⟩
    · exact .obj (by simp [Whole.str, Whole.arr, Whole.int, hleast, hgreatest])
  obtain ⟨-, hunit, hmap⟩ := ofText_toText
  exact ⟨hbare, (hunit _ hbare).1, hwhole, hdepth, (hmap _ hwhole hdepth).1⟩

end RelGraph
