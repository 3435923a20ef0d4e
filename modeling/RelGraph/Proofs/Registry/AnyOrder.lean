import Mathlib.Data.List.Perm.Basic
import RelGraph.Proofs.Registry.History

/-! Registering models in any order. Whether a model is accepted depends on what was registered
before it. But models with distinct identifiers are all accepted just when no two of them bind one
relation to different labels, and this says nothing of an order; nor does it show afterwards in what
is found under an identifier. -/

namespace RelGraph.Registry

/-- Registers models one after the other where the registry stands, up to the first that is
refused. -/
def registerAll (r : Registry) : List Model → Registry × Option Fault
  | [] => (r, none)
  | m :: rest =>
    match r.registerInPlace m with
    | (r', none) => registerAll r' rest
    | (r', some fault) => (r', some fault)

/-- No two of the models bind one relation identifier to different labels. -/
def LabelsAgree (models : List Model) : Prop :=
  ∀ a ∈ models, ∀ b ∈ models, ∀ s ∈ a.relations, ∀ t ∈ b.relations, s.id = t.id →
    s.forward = t.forward ∧ s.reverse = t.reverse

theorem labelsAgree_iff_consistent {models : List Model} :
    LabelsAgree models ↔ Catalog.Consistent (models.flatMap Model.relations) := by
  constructor
  · intro h s hs t ht hid
    obtain ⟨a, ha, hs⟩ := List.mem_flatMap.1 hs
    obtain ⟨b, hb, ht⟩ := List.mem_flatMap.1 ht
    obtain ⟨hforward, hreverse⟩ := h a ha b hb s hs t ht hid
    exact Relation.ext_of_sameLabels hid (by simp [Relation.sameLabels, hforward, hreverse])
  · intro h a ha b hb s hs t ht hid
    have heq : s = t :=
      h s (List.mem_flatMap.2 ⟨a, ha, hs⟩) t (List.mem_flatMap.2 ⟨b, hb, ht⟩) hid
    exact heq ▸ ⟨rfl, rfl⟩

theorem LabelsAgree.of_perm {models others : List Model} (h : LabelsAgree models)
    (hperm : models.Perm others) : LabelsAgree others := fun a ha b hb =>
  h a (hperm.mem_iff.2 ha) b (hperm.mem_iff.2 hb)

theorem fits_of_labelsAgree {models : List Model} {m : Model}
    (hnodup : ((models ++ [m]).map Model.id).Nodup) (h : LabelsAgree (models ++ [m])) :
    Fits models m := by
  refine ⟨fun a ha hid => ?_, fun a ha => ?_⟩
  · rw [List.map_append, List.nodup_append] at hnodup
    exact hnodup.2.2 a.id (List.mem_map_of_mem ha) m.id (by simp) hid
  · have hm : m ∈ models ++ [m] := by simp
    exact fun s hs t ht => h a (List.mem_append_left _ ha) m hm s hs t ht

variable {r : Registry} {models rest : List Model}

theorem registerAll_cons_of_fits (h : Holds r models) {m : Model} (hm : Fits models m)
    (rest : List Model) :
    ∃ r', Holds r' (models ++ [m]) ∧ r.registerAll (m :: rest) = r'.registerAll rest := by
  obtain ⟨r', hr, hnext⟩ := h.register_fits hm
  refine ⟨r', hnext, ?_⟩
  rw [registerAll, registerInPlace_eq, hr]

theorem registerAll_cons_of_not_fits (h : Holds r models) {m : Model} (hm : ¬Fits models m)
    (rest : List Model) : ∃ fault, r.registerAll (m :: rest) = (r, some fault) := by
  obtain ⟨fault, hr⟩ := h.register_not_fits hm
  refine ⟨fault, ?_⟩
  rw [registerAll, registerInPlace_eq, hr]

/-- When none is refused, the registry holds the models as they came. -/
theorem Holds.registerAll (h : Holds r models) (hok : (r.registerAll rest).2 = none) :
    Holds (r.registerAll rest).1 (models ++ rest) := by
  induction rest generalizing r models with
  | nil => exact (List.append_nil models).symm ▸ h
  | cons m rest ih =>
    by_cases hm : Fits models m
    · obtain ⟨r', hnext, hrun⟩ := registerAll_cons_of_fits h hm rest
      rw [hrun] at hok ⊢
      simpa using ih hnext hok
    · obtain ⟨fault, hrun⟩ := registerAll_cons_of_not_fits h hm rest
      simp [hrun] at hok

theorem Holds.registerAll_eq_none (h : Holds r models)
    (hnodup : ((models ++ rest).map Model.id).Nodup) (hagree : LabelsAgree (models ++ rest)) :
    (r.registerAll rest).2 = none := by
  -- what came so far and what is to come is one list, and the next model moves from the one part
  -- to the other
  induction rest generalizing r models with
  | nil => rfl
  | cons m rest ih =>
    have hsplit : models ++ m :: rest = (models ++ [m]) ++ rest := by simp
    rw [hsplit] at hnodup hagree
    have hm : Fits models m := by
      refine fits_of_labelsAgree ?_ fun a ha b hb => ?_
      · rw [List.map_append] at hnodup
        exact (List.nodup_append.1 hnodup).1
      · exact hagree a (List.mem_append_left _ ha) b (List.mem_append_left _ hb)
    obtain ⟨r', hnext, hrun⟩ := registerAll_cons_of_fits h hm rest
    rw [hrun]
    exact ih hnext hnodup hagree

theorem holds_empty : Holds ∅ [] := ⟨rfl, rfl, fun _ hr => absurd hr List.not_mem_nil⟩

/-- Models with distinct identifiers are all accepted just when their labels agree. -/
theorem registerAll_empty_eq_none_iff {l : List Model} (hnodup : (l.map Model.id).Nodup) :
    (registerAll ∅ l).2 = none ↔ LabelsAgree l := by
  constructor
  · intro hok
    exact labelsAgree_iff_consistent.2 (holds_empty.registerAll hok).consistent
  · exact fun hagree => holds_empty.registerAll_eq_none hnodup hagree

/-- What is found under an identifier, by the models that are held. -/
theorem Holds.get?_eq_some_iff (h : Holds r models) {id : String} {m : Model} :
    r.get? id = some m ↔ m ∈ models ∧ m.id = id := by
  rw [get?, Listing.find?_eq_some_iff, h.models_eq]

theorem Holds.relation?_eq_some_iff (h : Holds r models) {id : String} {s : Relation} :
    r.relation? id = some s ↔ (∃ m ∈ models, s ∈ m.relations) ∧ s.id = id := by
  rw [relation?, Catalog.get?, Listing.find?_eq_some_iff, h.mem_relations]

/-! ### The whole -/

/-- Registering does not depend on the order. Of models with distinct identifiers all are accepted
in one order just when they are in another one, namely when no two of them bind one relation to
different labels. Then both registries find the same model and the same relation under every
identifier: the one that was offered. -/
theorem registerAll_perm {l l' : List Model} (hnodup : (l.map Model.id).Nodup)
    (hperm : l.Perm l') :
    ((registerAll ∅ l).2 = none ↔ (registerAll ∅ l').2 = none) ∧
    ((registerAll ∅ l).2 = none ↔ LabelsAgree l) ∧
    ((registerAll ∅ l).2 = none →
      (∀ id, (registerAll ∅ l).1.get? id = (registerAll ∅ l').1.get? id) ∧
      (∀ id m, (registerAll ∅ l).1.get? id = some m ↔ m ∈ l ∧ m.id = id) ∧
      (∀ id, (registerAll ∅ l).1.relation? id = (registerAll ∅ l').1.relation? id) ∧
      ∀ id s, (registerAll ∅ l).1.relation? id = some s ↔
        (∃ m ∈ l, s ∈ m.relations) ∧ s.id = id) := by
  have hnodup' : (l'.map Model.id).Nodup := (hperm.map Model.id).nodup_iff.1 hnodup
  have hiff := registerAll_empty_eq_none_iff hnodup
  have hiff' := registerAll_empty_eq_none_iff hnodup'
  have horder : (registerAll ∅ l).2 = none ↔ (registerAll ∅ l').2 = none := by
    rw [hiff, hiff']
    exact ⟨fun h => h.of_perm hperm, fun h => h.of_perm hperm.symm⟩
  refine ⟨horder, hiff, fun hok => ?_⟩
  have h : Holds (registerAll ∅ l).1 l := holds_empty.registerAll hok
  have h' : Holds (registerAll ∅ l').1 l' := holds_empty.registerAll (horder.1 hok)
  refine ⟨fun id => ?_, fun id m => h.get?_eq_some_iff, fun id => ?_,
    fun id s => h.relation?_eq_some_iff⟩
  · ext m
    rw [h.get?_eq_some_iff, h'.get?_eq_some_iff, hperm.mem_iff]
  · ext s
    rw [h.relation?_eq_some_iff, h'.relation?_eq_some_iff]
    simp only [hperm.mem_iff]

/-- A model that contributes one relation of its own and one that it shares. -/
def sampleModel (id own : String) (hid : Text.isBlank id = false)
    (hown : Text.isBlank own = false) (hne : own ≠ "uses") : Model where
  id := id
  nodeKinds := ∅
  relations := [⟨own, own, own, hown⟩, ⟨"uses", "uses", "uses", rfl⟩]
  id_not_blank := hid
  kinds_not_blank := by simp
  relations_nodup := by simp [hne]

theorem registerAll_perm_sample :
    let code := sampleModel "code" "calls" rfl rfl (by decide)
    let docs := sampleModel "docs" "cites" rfl rfl (by decide)
    ([code, docs].map Model.id).Nodup ∧ [code, docs].Perm [docs, code] ∧
      (registerAll ∅ [code, docs]).2 = none ∧ (registerAll ∅ [docs, code]).2 = none ∧
      LabelsAgree [code, docs] ∧
      (∀ id, (registerAll ∅ [code, docs]).1.get? id = (registerAll ∅ [docs, code]).1.get? id) ∧
      (∀ id, (registerAll ∅ [code, docs]).1.relation? id =
        (registerAll ∅ [docs, code]).1.relation? id) ∧
      (registerAll ∅ [code, docs]).1.get? "docs" = some docs ∧
      (registerAll ∅ [docs, code]).1.relation? "calls" =
        some ⟨"calls", "calls", "calls", rfl⟩ := by
  intro code docs
  have hnodup : ([code, docs].map Model.id).Nodup := by decide
  have hperm : [code, docs].Perm [docs, code] := .swap docs code []
  obtain ⟨horder, hagree, hsame⟩ := registerAll_perm hnodup hperm
  have hok : (registerAll ∅ [code, docs]).2 = none := by decide
  obtain ⟨hmodels, hmodel, hrelations, hrelation⟩ := hsame hok
  refine ⟨hnodup, hperm, hok, horder.1 hok, hagree.1 hok, hmodels, hrelations, ?_, ?_⟩
  · exact (hmodel "docs" docs).2 ⟨by simp, rfl⟩
  · rw [← hrelations]
    exact (hrelation "calls" _).2 ⟨⟨code, by simp, List.mem_cons_self⟩, rfl⟩

end RelGraph.Registry
