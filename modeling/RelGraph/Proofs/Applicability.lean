import RelGraph.Applicability
import RelGraph.Proofs.Datum

/-! Applicability and its written form. Every applicability is read back from what is written for
it, however its parts are nested. -/

namespace RelGraph.Applicability

/-- Induction over the parts of an applicability. -/
@[elab_as_elim, induction_eliminator]
theorem tree_induction {motive : Applicability → Prop} (any : motive .any)
    (model : ∀ id, motive (.model id)) (nodeKinds : ∀ kinds, motive (.nodeKinds kinds))
    (relationKinds : ∀ ids, motive (.relationKinds ids))
    (allOf : ∀ parts, (∀ a ∈ parts, motive a) → motive (.allOf parts))
    (anyOf : ∀ parts, (∀ a ∈ parts, motive a) → motive (.anyOf parts))
    (a : Applicability) : motive a :=
  Applicability.rec (motive_2 := fun parts => ∀ a ∈ parts, motive a) any model nodeKinds
    relationKinds allOf anyOf (by simp) (fun _ _ ha hrest => List.forall_mem_cons.2 ⟨ha, hrest⟩) a

theorem partsToJson_eq_map (parts : List Applicability) :
    toJson.partsToJson parts = parts.map toJson := by
  induction parts with
  | nil => rfl
  | cons a rest ih => rw [toJson.partsToJson, ih, List.map_cons]

theorem ofParts?_eq_mapM (c : Datum.Conventions) (items : List Datum) :
    ofParts? c items = items.mapM (ofDatum? c) := by
  induction items with
  | nil => rw [ofParts?]; rfl
  | cons d rest ih => rw [ofParts?, ih, List.mapM_cons]

/-- No number is written for an applicability. -/
theorem whole_toJson (a : Applicability) : a.toJson.Whole := by
  induction a with
  | any => exact .str "any"
  | model id => exact Json.whole_member (.str id)
  | nodeKinds kinds => exact Json.whole_member (Json.whole_strings kinds.entries)
  | relationKinds ids => exact Json.whole_member (Json.whole_strings ids.entries)
  | allOf parts ih | anyOf parts ih =>
    rw [toJson, partsToJson_eq_map]
    exact Json.whole_member (Json.whole_arr_map ih)

variable {c : Datum.Conventions}

/-- The only key of an object is the name of the choice. -/
theorem ofDatum?_choice (key : String) (j : Json) :
    ofDatum? c (.ofJson (.obj [(key, j)])) = ofChoice? c key (.ofJson j) := by
  rw [Datum.ofJson_obj, List.map_singleton, ofDatum?]
  rfl

theorem mapM_string?_ofJson (names : List String) :
    ((names.map Json.str).map Datum.ofJson).mapM Datum.string? = some names :=
  Datum.mapM_ofJson fun _ _ => rfl

theorem ofParts?_ofJson {parts : List Applicability}
    (h : ∀ a ∈ parts, ofDatum? c (.ofJson a.toJson) = some a) :
    ofParts? c ((parts.map toJson).map Datum.ofJson) = some parts := by
  rw [ofParts?_eq_mapM, Datum.mapM_ofJson h]

/-- An applicability is read back from its written form. -/
theorem ofDatum?_toJson (c : Datum.Conventions) (a : Applicability) :
    ofDatum? c (.ofJson a.toJson) = some a := by
  induction a with
  | any => rfl
  | model id => rfl
  | nodeKinds kinds =>
    have hkinds : NameSet.ofNames kinds.entries = kinds := Ascending.ofList_entries kinds
    rw [toJson, ofDatum?_choice, Json.strings, Datum.ofJson_arr, ofChoice?, mapM_string?_ofJson]
    simp [hkinds]
  | relationKinds ids =>
    have hids : NameSet.ofNames ids.entries = ids := Ascending.ofList_entries ids
    rw [toJson, ofDatum?_choice, Json.strings, Datum.ofJson_arr, ofChoice?, mapM_string?_ofJson]
    simp [hids]
  | allOf parts ih | anyOf parts ih =>
    rw [toJson, ofDatum?_choice, partsToJson_eq_map, Datum.ofJson_arr, ofChoice?,
      ofParts?_ofJson ih]
    simp

end RelGraph.Applicability
