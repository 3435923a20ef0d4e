import RelGraph.Proofs.Document
import RelGraph.Record

/-! Documents over their lifetime. A document is made once and then written to, by its own rule for
the reserved key or past it, straight to the payload. Name and applicability never change, so a
document can be stored and built again exactly as long as its payload leaves the reserved key alone.
No write through the document can break this; only a write past it can. -/

namespace RelGraph.Document

/-! ### Writes -/

/-- A write to a living document with a property map. -/
inductive Edit
  /-- Through the document, which refuses the reserved key. -/
  | set (key : String) (value : Json)
  /-- To the payload, past the document. -/
  | write (key : String) (value : Json)
  /-- A whole payload in place of the old one, past the document. -/
  | replace (payload : PropertyMap)

/-- What a write makes of a document. One that is refused leaves it alone. -/
def edit (d : Document PropertyMap) : Edit → Document PropertyMap
  | .set key value =>
    match d.setProperty key value with
    | .ok d' => d'
    | .error _ => d
  | .write key value =>
    match d.setPayloadProperty key value with
    | .ok d' => d'
    | .error _ => d
  | .replace payload => { d with payload }

/-- The document after a history of writes. -/
def edited (d : Document PropertyMap) (edits : List Edit) : Document PropertyMap :=
  edits.foldl edit d

/-- The write brings no entry with the reserved key past the document. -/
def Edit.Spares : Edit → Prop
  | .set _ _ => True
  | .write key _ => key ≠ reservedKey
  | .replace payload => reservedKey ∉ payload.keys

instance (e : Edit) : Decidable e.Spares :=
  match e with
  | .set _ _ => .isTrue trivial
  | .write key _ => inferInstanceAs (Decidable (key ≠ reservedKey))
  | .replace payload => inferInstanceAs (Decidable (reservedKey ∉ payload.keys))

theorem mem_keys_put {m : PropertyMap} {key k : String} {value : Json} :
    k ∈ (m.put key value).keys ↔ k = key ∨ k ∈ m.keys :=
  Ascending.mem_map_insertEntry

theorem setPayloadProperty_eq (d : Document PropertyMap) (key : String) (value : Json) :
    d.setPayloadProperty key value = .ok { d with payload := d.payload.put key value } := rfl

/-- A write through the document changes the payload, unless it is of the reserved key. -/
theorem edit_set (d : Document PropertyMap) (key : String) (value : Json) :
    d.edit (.set key value) = if key = reservedKey then d else
      { d with payload := d.payload.put key value } := by
  rw [edit, setProperty]
  by_cases hkey : key = reservedKey
  · rw [if_pos hkey, if_pos hkey]
  · rw [if_neg hkey, if_neg hkey, setPayloadProperty_eq]

theorem edit_write (d : Document PropertyMap) (key : String) (value : Json) :
    d.edit (.write key value) = { d with payload := d.payload.put key value } := by
  rw [edit, setPayloadProperty_eq]

/-- A write changes nothing but the payload. -/
theorem exists_edit_eq (d : Document PropertyMap) (e : Edit) :
    ∃ payload, d.edit e = { d with payload } := by
  cases e with
  | set key value =>
    rw [edit_set]
    split
    · exact ⟨d.payload, rfl⟩
    · exact ⟨_, rfl⟩
  | write key value => exact ⟨_, edit_write d key value⟩
  | replace payload => exact ⟨payload, rfl⟩

/-- A write that spares the reserved key puts no entry with it into the payload. -/
theorem reservedKey_notMem_edit {d : Document PropertyMap} {e : Edit} (he : e.Spares)
    (hd : reservedKey ∉ d.payload.keys) : reservedKey ∉ (d.edit e).payload.keys := by
  have hput : ∀ key value, key ≠ reservedKey → reservedKey ∉ (d.payload.put key value).keys := by
    intro key value hkey hmem
    rcases mem_keys_put.1 hmem with h | h
    · exact hkey h.symm
    · exact hd h
  cases e with
  | set key value =>
    rw [edit_set]
    by_cases hkey : key = reservedKey
    · -- refused, so the payload is the old one
      rw [if_pos hkey]
      exact hd
    · rw [if_neg hkey]
      exact hput key value hkey
  | write key value =>
    rw [edit_write]
    exact hput key value he
  | replace payload => exact he

/-! ### Histories -/

variable {d : Document PropertyMap}

/-- A history of writes changes nothing but the payload. -/
theorem exists_edited_eq (d : Document PropertyMap) (edits : List Edit) :
    ∃ payload, d.edited edits = { d with payload } := by
  induction edits generalizing d with
  | nil => exact ⟨d.payload, rfl⟩
  | cons e rest ih =>
    obtain ⟨first, hfirst⟩ := exists_edit_eq d e
    obtain ⟨last, hlast⟩ := ih (d.edit e)
    refine ⟨last, ?_⟩
    rw [edited, List.foldl_cons, ← edited, hlast, hfirst]

theorem reservedKey_notMem_edited {edits : List Edit} (hedits : ∀ e ∈ edits, e.Spares)
    (hd : reservedKey ∉ d.payload.keys) : reservedKey ∉ (d.edited edits).payload.keys := by
  induction edits generalizing d with
  | nil => exact hd
  | cons e rest ih =>
    have hstep := reservedKey_notMem_edit (hedits e List.mem_cons_self) hd
    exact ih (fun e' he' => hedits e' (List.mem_cons_of_mem _ he')) hstep

/-! ### Stored and built again -/

/-- A stored document is built again as it was, unless its payload has the reserved key. -/
theorem build_describe_eq (d : Document PropertyMap) :
    d.describe.build = if reservedKey ∈ d.payload.keys then
      .error (.reservedProperty d.name reservedKey) else .ok d := by
  rw [Descriptor.build, describe, make, dif_pos d.name_not_blank]
  by_cases h : reservedKey ∈ d.payload.keys
  · have hsome : (Payload.property? d.payload reservedKey).isSome = true := by
      rw [Option.isSome_iff_ne_none, Ne, property?_eq_none_iff]
      exact not_not_intro h
    rw [if_pos h, if_pos hsome]
  · have hnone : Payload.property? d.payload reservedKey = none := property?_eq_none_iff.2 h
    rw [if_neg h, if_neg (by simp [hnone])]

theorem of_make {name : String} {matcher : Applicability} {payload : PropertyMap}
    (h : make name matcher payload = .ok d) :
    d.name = name ∧ d.matcher = matcher ∧ reservedKey ∉ d.payload.keys := by
  obtain ⟨hname, hmatcher, rfl, hproperty⟩ := parts_of_make h
  exact ⟨hname, hmatcher, property?_eq_none_iff.1 hproperty⟩

/-- After any history of writes a document has the name and the applicability it was made with. It
is built again from its stored form as it is, or refused for the one reason that its payload has an
entry with the reserved key. This never happens while the writes past the document spare that key,
whatever is set through the document. -/
theorem build_describe_edited {name : String} {matcher : Applicability} {payload : PropertyMap}
    (h : make name matcher payload = .ok d) (edits : List Edit) :
    (d.edited edits).name = name ∧ (d.edited edits).matcher = matcher ∧
      ((d.edited edits).describe.build =
        if reservedKey ∈ (d.edited edits).payload.keys then
          .error (.reservedProperty name reservedKey)
        else .ok (d.edited edits)) ∧
      ((∀ e ∈ edits, e.Spares) → (d.edited edits).describe.build = .ok (d.edited edits)) := by
  obtain ⟨hname, hmatcher, hreserved⟩ := of_make h
  obtain ⟨last, hlast⟩ := exists_edited_eq d edits
  have hname' : (d.edited edits).name = name := by rw [hlast, ← hname]
  have hmatcher' : (d.edited edits).matcher = matcher := by rw [hlast, ← hmatcher]
  have hbuild := build_describe_eq (d.edited edits)
  refine ⟨hname', hmatcher', hname' ▸ hbuild, ?_⟩
  intro hedits
  rw [hbuild, if_neg (reservedKey_notMem_edited hedits hreserved)]

/-- A document with the name `notes` and one property. -/
def sample : Document PropertyMap := ⟨"notes", .any, PropertyMap.put ∅ "color" "red", rfl⟩

/-- Writes of both kinds, a refused one among them, and another payload in between. -/
def sampleEdits : List Edit :=
  [.set reservedKey "any", .write "color" .null, .replace ∅, .set "" "x"]

theorem build_describe_edited_sample :
    make "notes" .any (PropertyMap.put ∅ "color" "red") = .ok sample ∧
      (∀ e ∈ sampleEdits, e.Spares) ∧
      (sample.edited sampleEdits).describe.build = .ok (sample.edited sampleEdits) := by
  have hmake : make "notes" .any (PropertyMap.put ∅ "color" "red") = .ok sample := rfl
  have hspares : ∀ e ∈ sampleEdits, e.Spares := by decide
  exact ⟨hmake, hspares, (build_describe_edited hmake sampleEdits).2.2.2 hspares⟩

/-- One write past the document is enough to make a document that cannot be built again. -/
theorem build_describe_write_reserved :
    make "notes" .any (PropertyMap.put ∅ "color" "red") = .ok sample ∧
      (sample.edited [.write reservedKey "any"]).describe.build =
        .error (.reservedProperty "notes" reservedKey) :=
  ⟨rfl, rfl⟩

end RelGraph.Document
