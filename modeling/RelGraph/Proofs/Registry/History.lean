import Mathlib.Data.List.Induction
import RelGraph.Proofs.Registry

/-! Registries and the models that are offered to them. A registry checks a model first and then
writes its relations, one by one, into a catalog that could refuse each of them. After the check
none is refused, so a model is registered as a whole or not at all. An induction over the offers
then shows that the registry holds the models that fit those before them, and the relations of
these models, each once and where it was first contributed. -/

namespace RelGraph

/-! ### Relations that agree -/

namespace Catalog

/-- Relations that agree are listed in the order of their first occurrence. -/
theorem entries_ofList_of_consistent {l : List Relation} (h : Consistent l) :
    (Listing.ofList l : Catalog).entries = l.eraseDups := by
  induction l using List.reverseRecOn with
  | nil => rfl
  | append_singleton l r ih =>
    have hl : Consistent l := fun s hs t ht => h s (by simp [hs]) t (by simp [ht])
    have hadd : (Listing.ofList (l ++ [r]) : Catalog) = (Listing.ofList l : Catalog).add r := by
      rw [Listing.ofList, List.foldl_append]
      rfl
    have hkey : r.id ∈ (Listing.ofList l : Catalog).keys ↔ r ∈ l := by
      rw [Listing.mem_keys_ofList, List.mem_map]
      constructor
      · rintro ⟨s, hs, hid⟩
        have hsr : s = r := h s (by simp [hs]) r (by simp) hid
        exact hsr ▸ hs
      · intro hr
        exact ⟨r, hr, rfl⟩
    rw [hadd, Listing.entries_add, ih hl, List.eraseDups_append]
    by_cases hr : r ∈ l
    · rw [if_pos (hkey.2 hr)]
      simp [List.removeAll, hr]
    · rw [if_neg (fun hk => hr (hkey.1 hk))]
      simp [List.removeAll, hr, List.eraseDups_cons]

theorem mem_entries_ofList {l : List Relation} (h : Consistent l) {r : Relation} :
    r ∈ (Listing.ofList l : Catalog).entries ↔ r ∈ l := by
  rw [entries_ofList_of_consistent h, List.mem_eraseDups]

/-- Writes relations into a catalog where it stands. It stops at the first that is refused, and the
ones before it stay written. -/
def insertInTurn (c : Catalog) : List Relation → Catalog × Option Fault
  | [] => (c, none)
  | r :: rest =>
    match c.insert r with
    | .ok c' => insertInTurn c' rest
    | .error fault => (c, some fault)

/-- Of relations that agree with the catalog and with each other none is refused. -/
theorem insertInTurn_eq {c : Catalog} {l : List Relation} (h : Consistent (c.entries ++ l)) :
    insertInTurn c l = (l.foldl Listing.add c, none) := by
  induction l generalizing c with
  | nil => rfl
  | cons r rest ih =>
    obtain ⟨hold, hrest⟩ := consistent_cons_iff.1 h
    have hinsert : c.insert r = .ok (c.add r) := insert_eq_ok.2 ⟨hold, rfl⟩
    rw [insertInTurn, hinsert, List.foldl_cons]
    exact ih hrest

end Catalog

namespace Registry

open Catalog

/-! ### Registering in place -/

/-- Registers a model where the registry stands: after the check, the relations are written one by
one, and the model only when all of them are. -/
def registerInPlace (r : Registry) (m : Model) : Registry × Option Fault :=
  if r.models.contains m.id then (r, some (.duplicateModel m.id))
  else
    match r.conflict? m with
    | some own => (r, some (.modelRedefinesRelation m.id own.id))
    | none =>
      match insertInTurn r.relations m.relations with
      | (relations, some fault) => (⟨r.models, relations⟩, some fault)
      | (relations, none) => (⟨r.models.add m, relations⟩, none)

/-- A model that passes the check agrees with the catalog, and by its making with itself. -/
theorem consistent_of_conflict? {r : Registry} {m : Model} (h : r.conflict? m = none) :
    Consistent (r.relations.entries ++ m.relations) := by
  have hagree := conflict?_eq_none_iff.1 h
  intro s hs t ht hid
  rcases List.mem_append.1 hs with hs | hs <;> rcases List.mem_append.1 ht with ht | ht
  · exact Listing.eq_of_key_eq hs ht hid
  · exact hagree t ht s hs hid
  · exact (hagree s hs t ht hid.symm).symm
  · exact List.inj_on_of_nodup_map m.relations_nodup hs ht hid

/-- Registering in place is registering: what is written is all that there is to write, and where
something is refused nothing is written. -/
theorem registerInPlace_eq (r : Registry) (m : Model) :
    r.registerInPlace m = match r.register m with
      | .ok r' => (r', none)
      | .error fault => (r, some fault) := by
  unfold registerInPlace register
  by_cases hid : r.models.contains m.id = true
  · rw [if_pos hid, if_pos hid]
  · rw [if_neg hid, if_neg hid]
    cases h : r.conflict? m with
    | some own => rfl
    | none => simp only [insertInTurn_eq (consistent_of_conflict? h)]

/-! ### Models that fit -/

/-- The model can stand beside the others: none of them has its identifier, and none has a relation
with the identifier and not the labels of one of its own. -/
def Fits (models : List Model) (m : Model) : Prop :=
  (∀ a ∈ models, a.id ≠ m.id) ∧
    ∀ a ∈ models, ∀ old ∈ a.relations, ∀ own ∈ m.relations, old.id = own.id →
      old.forward = own.forward ∧ old.reverse = own.reverse

instance (models : List Model) (m : Model) : Decidable (Fits models m) :=
  inferInstanceAs (Decidable (_ ∧ _))

/-- Of the models that are offered, each that fits those that were kept before it. -/
def kept (offered : List Model) : List Model :=
  offered.foldl (fun models m => if Fits models m then models ++ [m] else models) []

theorem kept_concat (offered : List Model) (m : Model) :
    kept (offered ++ [m]) = if Fits (kept offered) m then kept offered ++ [m] else kept offered := by
  rw [kept, List.foldl_append]
  rfl

/-- The registry holds the models in this order, and their relations as they were contributed. -/
structure Holds (r : Registry) (models : List Model) : Prop where
  models_eq : r.models.entries = models
  relations_eq : r.relations = Listing.ofList (models.flatMap Model.relations)
  consistent : Consistent (models.flatMap Model.relations)

theorem Holds.mem_relations {r : Registry} {models : List Model} (h : Holds r models)
    {s : Relation} : s ∈ r.relations.entries ↔ ∃ a ∈ models, s ∈ a.relations := by
  rw [h.relations_eq, mem_entries_ofList h.consistent, List.mem_flatMap]

/-- The check of a registry looks for what does not fit. -/
theorem Holds.fits_iff {r : Registry} {models : List Model} (h : Holds r models) {m : Model} :
    Fits models m ↔ m.id ∉ r.models.keys ∧
      ∀ own ∈ m.relations, ∀ old ∈ r.relations.entries, old.id = own.id → old = own := by
  have hids : m.id ∉ r.models.keys ↔ ∀ a ∈ models, a.id ≠ m.id := by
    rw [Listing.keys, h.models_eq]
    simp
  rw [hids, Fits]
  refine and_congr_right fun _ => ⟨fun hlabels own hown old hold hid => ?_,
    fun hagree a ha old hold own hown hid => ?_⟩
  · obtain ⟨a, ha, hmem⟩ := h.mem_relations.1 hold
    obtain ⟨hforward, hreverse⟩ := hlabels a ha old hmem own hown hid
    exact Relation.ext_of_sameLabels hid (by simp [Relation.sameLabels, hforward, hreverse])
  · have heq := hagree own hown old (h.mem_relations.2 ⟨a, ha, hold⟩) hid
    exact heq ▸ ⟨rfl, rfl⟩

/-- A model that fits is registered, and comes last. -/
theorem Holds.register_fits {r : Registry} {models : List Model} (h : Holds r models) {m : Model}
    (hm : Fits models m) : ∃ r', r.register m = .ok r' ∧ Holds r' (models ++ [m]) := by
  obtain ⟨hid, hagree⟩ := h.fits_iff.1 hm
  have hflat : (models ++ [m]).flatMap Model.relations =
      models.flatMap Model.relations ++ m.relations := by simp
  refine ⟨_, register_eq_ok.2 ⟨hid, hagree, rfl⟩, ?_, ?_, ?_⟩
  · rw [Listing.entries_add, if_neg hid, h.models_eq]
  · rw [hflat, Listing.ofList, List.foldl_append, h.relations_eq]
    rfl
  · have hall := consistent_of_conflict? (conflict?_eq_none_iff.2 hagree)
    intro s hs t ht
    rw [hflat, List.mem_append, ← mem_entries_ofList h.consistent, ← h.relations_eq] at hs ht
    exact hall s (List.mem_append.2 hs) t (List.mem_append.2 ht)

/-- A model that does not fit is refused. -/
theorem Holds.register_not_fits {r : Registry} {models : List Model} (h : Holds r models)
    {m : Model} (hm : ¬Fits models m) : ∃ fault, r.register m = .error fault := by
  cases hr : r.register m with
  | error fault => exact ⟨fault, rfl⟩
  | ok r' =>
    obtain ⟨hid, hagree, -⟩ := register_eq_ok.1 hr
    exact absurd (h.fits_iff.2 ⟨hid, hagree⟩) hm

/-! ### Histories -/

/-- The registry to which the models were offered one after the other. -/
def ofModels (offered : List Model) : Registry :=
  offered.foldl (fun r m => (r.registerInPlace m).1) ∅

theorem ofModels_concat (offered : List Model) (m : Model) :
    ofModels (offered ++ [m]) = ((ofModels offered).registerInPlace m).1 := by
  simp [ofModels]

theorem Holds.offer {r : Registry} {offered : List Model} (h : Holds r (kept offered)) (m : Model) :
    Holds (r.registerInPlace m).1 (kept (offered ++ [m])) := by
  rw [kept_concat, registerInPlace_eq]
  by_cases hm : Fits (kept offered) m
  · obtain ⟨r', hr, hnext⟩ := h.register_fits hm
    rw [if_pos hm, hr]
    exact hnext
  · obtain ⟨fault, hr⟩ := h.register_not_fits hm
    rw [if_neg hm, hr]
    exact h

theorem holds_ofModels (offered : List Model) : Holds (ofModels offered) (kept offered) := by
  induction offered using List.reverseRecOn with
  | nil => exact ⟨rfl, rfl, fun _ hr => absurd hr List.not_mem_nil⟩
  | append_singleton offered m ih =>
    rw [ofModels_concat]
    exact ih.offer m

end Registry

end RelGraph
