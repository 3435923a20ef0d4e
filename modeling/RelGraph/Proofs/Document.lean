import RelGraph.Document
import RelGraph.Proofs.Datum

/-! What a document can be made of: a name that is not blank and a payload that leaves the reserved
key alone. A payload that is a property map is read back from its written form. -/

namespace RelGraph

/-- A property map is read back when its values are stored values with finite numbers only. -/
theorem PropertyMap.ofDatum?_toJson {m : PropertyMap}
    (h : ∀ e ∈ m.entries, e.2.Stored ∧ e.2.Finite) : ofDatum? (.ofJson m.toJson) = some m := by
  rw [ofDatum?, toJson, ← List.map_id m.entries]
  exact Datum.map?_ofJson (f := id) fun e he => Datum.toJson?_ofJson (h e he).2 (h e he).1

/-- The properties that are read are stored values when their numbers can be written. -/
theorem PropertyMap.stored_of_ofDatum? {d : Datum} {m : PropertyMap} (h : ofDatum? d = some m)
    {e : String × Json} (he : e ∈ m.entries) (hwhole : e.2.Whole) : e.2.Stored := by
  obtain ⟨value, hvalue⟩ := Datum.exists_of_map?_eq_some h he
  exact Datum.stored_of_toJson? hvalue hwhole

namespace Document

theorem exists_make_iff {π : Type} [Payload π] {name : String} {matcher : Applicability}
    {payload : π} :
    (∃ d, make name matcher payload = .ok d) ↔
      Text.isBlank name = false ∧ Payload.property? payload reservedKey = none := by
  rw [make]
  by_cases hname : Text.isBlank name = false
  · rw [dif_pos hname]
    cases h : Payload.property? payload reservedKey <;> simp [hname]
  · rw [dif_neg hname]
    simp [hname]

/-- What is bound together is kept as it is given. -/
theorem parts_of_make {π : Type} [Payload π] {name : String} {matcher : Applicability} {payload : π}
    {d : Document π} (h : make name matcher payload = .ok d) :
    d.name = name ∧ d.matcher = matcher ∧ d.payload = payload ∧
      Payload.property? payload reservedKey = none := by
  rw [make] at h
  split at h
  · split at h
    · cases h
    · next hproperty =>
      cases h
      exact ⟨rfl, rfl, rfl, by simpa using hproperty⟩
  · cases h

/-- A property map leaves a key alone when it has no entry for it. -/
theorem property?_eq_none_iff {m : PropertyMap} {key : String} :
    Payload.property? m key = none ↔ key ∉ m.keys := by
  rw [← Ascending.isSome_find?_iff]
  show (m.find? key).map Prod.snd = none ↔ _
  simp

end Document

end RelGraph
