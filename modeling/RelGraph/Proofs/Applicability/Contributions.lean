import RelGraph.Proofs.Applicability
import RelGraph.Proofs.Model

/-! Applicability and what a model contributes. A model that contributes more meets every
applicability that one with the same identifier meets, so nothing but the identifier, the node kinds
and the relation identifiers of a model has an influence; neither their order nor a label has. -/

namespace RelGraph

/-- The other model has the same identifier, and it contributes all node kinds and all relation
identifiers of this one. -/
structure Model.IncludedIn (m n : Model) : Prop where
  id_eq : m.id = n.id
  nodeKinds : ∀ k ∈ m.nodeKinds.entries, k ∈ n.nodeKinds.entries
  relationKinds : ∀ id ∈ m.relationKinds, id ∈ n.relationKinds

namespace Applicability

variable {m n : Model} {a : Applicability}

/-! ### By the form of the applicability -/

theorem appliesTo_every (parts : List Applicability) :
    appliesTo.every m parts = true ↔ ∀ a ∈ parts, a.appliesTo m = true := by
  induction parts with
  | nil => simp [appliesTo.every]
  | cons a rest ih => simp [appliesTo.every, ih]

theorem appliesTo_some (parts : List Applicability) :
    appliesTo.some m parts = true ↔ ∃ a ∈ parts, a.appliesTo m = true := by
  induction parts with
  | nil => simp [appliesTo.some]
  | cons a rest ih => simp [appliesTo.some, ih]

theorem appliesTo_model {id : String} : (model id).appliesTo m = true ↔ m.id = id := by
  rw [appliesTo, beq_iff_eq]

theorem appliesTo_nodeKinds {kinds : NameSet} :
    (nodeKinds kinds).appliesTo m = true ↔ ∀ k ∈ kinds.entries, k ∈ m.nodeKinds.entries := by
  simp only [appliesTo, List.all_eq_true, Model.hasNodeKind_iff]

theorem appliesTo_relationKinds {ids : NameSet} :
    (relationKinds ids).appliesTo m = true ↔ ∀ id ∈ ids.entries, id ∈ m.relationKinds := by
  simp only [appliesTo, List.all_eq_true, Model.hasRelation_iff]

theorem appliesTo_allOf {parts : List Applicability} :
    (allOf parts).appliesTo m = true ↔ parts ≠ [] ∧ ∀ a ∈ parts, a.appliesTo m = true := by
  rw [appliesTo, Bool.and_eq_true, appliesTo_every, Bool.not_eq_true', List.isEmpty_eq_false_iff]

theorem appliesTo_anyOf {parts : List Applicability} :
    (anyOf parts).appliesTo m = true ↔ ∃ a ∈ parts, a.appliesTo m = true := by
  rw [appliesTo, appliesTo_some]

/-! ### More contributions -/

/-- What applies to a model applies to those that contribute more. -/
theorem appliesTo_of_includedIn (h : m.IncludedIn n) (ha : a.appliesTo m = true) :
    a.appliesTo n = true := by
  induction a with
  | any => rfl
  | model id => exact appliesTo_model.2 (h.id_eq ▸ appliesTo_model.1 ha)
  | nodeKinds kinds =>
    exact appliesTo_nodeKinds.2 fun k hk => h.nodeKinds k (appliesTo_nodeKinds.1 ha k hk)
  | relationKinds ids =>
    exact appliesTo_relationKinds.2 fun id hid =>
      h.relationKinds id (appliesTo_relationKinds.1 ha id hid)
  | allOf parts ih =>
    -- that there are parts has nothing to do with the model
    obtain ⟨hne, hall⟩ := appliesTo_allOf.1 ha
    exact appliesTo_allOf.2 ⟨hne, fun part hpart => ih part hpart (hall part hpart)⟩
  | anyOf parts ih =>
    obtain ⟨part, hpart, happlies⟩ := appliesTo_anyOf.1 ha
    exact appliesTo_anyOf.2 ⟨part, hpart, ih part hpart happlies⟩

/-- Three applicabilities tell what a model contributes. -/
theorem includedIn_of_appliesTo
    (h : ∀ a : Applicability, a.appliesTo m = true → a.appliesTo n = true) : m.IncludedIn n where
  id_eq := (appliesTo_model.1 (h (.model m.id) (appliesTo_model.2 rfl))).symm
  nodeKinds :=
    appliesTo_nodeKinds.1 (h (.nodeKinds m.nodeKinds) (appliesTo_nodeKinds.2 fun _ hk => hk))
  relationKinds id hid := by
    have hown : (relationKinds (.ofNames m.relationKinds)).appliesTo m = true :=
      appliesTo_relationKinds.2 fun _ hi => NameSet.mem_ofNames.1 hi
    exact appliesTo_relationKinds.1 (h _ hown) id (NameSet.mem_ofNames.2 hid)

theorem includedIn_iff :
    m.IncludedIn n ↔ ∀ a : Applicability, a.appliesTo m = true → a.appliesTo n = true :=
  ⟨fun h _ => appliesTo_of_includedIn h, includedIn_of_appliesTo⟩

/-! ### Contributions in any order -/

section Built

variable {id : String} {kinds kinds' : List String} {relations relations' : List Relation}

theorem includedIn_of_build (hm : Model.build id kinds relations = .ok m)
    (hn : Model.build id kinds' relations' = .ok n) (hkinds : ∀ k ∈ kinds, k ∈ kinds')
    (hrelations : ∀ i ∈ relations.map Relation.id, i ∈ relations'.map Relation.id) :
    m.IncludedIn n := by
  obtain ⟨hmid, hmkinds, hmrelations⟩ := Model.of_build hm
  obtain ⟨hnid, hnkinds, hnrelations⟩ := Model.of_build hn
  refine ⟨hmid.trans hnid.symm, fun k hk => ?_, fun i hi => ?_⟩
  · rw [hmkinds, NameSet.mem_ofNames] at hk
    rw [hnkinds, NameSet.mem_ofNames]
    exact hkinds k hk
  · rw [Model.relationKinds, hmrelations] at hi
    rw [Model.relationKinds, hnrelations]
    exact hrelations i hi

theorem appliesTo_eq_of_build (hm : Model.build id kinds relations = .ok m)
    (hn : Model.build id kinds' relations' = .ok n) (hkinds : ∀ k, k ∈ kinds ↔ k ∈ kinds')
    (hrelations : ∀ i, i ∈ relations.map Relation.id ↔ i ∈ relations'.map Relation.id)
    (a : Applicability) : a.appliesTo m = a.appliesTo n := by
  have hle := includedIn_of_build hm hn (fun k => (hkinds k).1) fun i => (hrelations i).1
  have hge := includedIn_of_build hn hm (fun k => (hkinds k).2) fun i => (hrelations i).2
  exact Bool.eq_iff_iff.2 ⟨appliesTo_of_includedIn hle, appliesTo_of_includedIn hge⟩

end Built

/-! ### The whole -/

/-- One model is met by all that applies to another one exactly when it has the same identifier and
contributes at least as much. So models that are built with one identifier from the same kinds and
relation identifiers are met alike, in whatever order these come and whatever the labels are. What
asks for all of no parts applies to no model. -/
theorem appliesTo_monotone :
    (∀ m n : Model, m.IncludedIn n ↔
      ∀ a : Applicability, a.appliesTo m = true → a.appliesTo n = true) ∧
    (∀ (id : String) (kinds kinds' : List String) (relations relations' : List Relation)
      (m n : Model), Model.build id kinds relations = .ok m →
        Model.build id kinds' relations' = .ok n → (∀ k, k ∈ kinds ↔ k ∈ kinds') →
        (∀ i, i ∈ relations.map Relation.id ↔ i ∈ relations'.map Relation.id) →
          ∀ a : Applicability, a.appliesTo m = a.appliesTo n) ∧
    ∀ m : Model, (allOf []).appliesTo m = false :=
  ⟨fun _ _ => includedIn_iff, fun _ _ _ _ _ _ _ => appliesTo_eq_of_build,
    fun _ => Bool.eq_false_iff.2 fun h => (appliesTo_allOf.1 h).1 rfl⟩

/-- What applies to models named `java` with two kinds and a relation. One of its parts asks for no
kinds, and another has an alternative that applies to no model. -/
def nestedSample : Applicability :=
  .allOf [.nodeKinds ∅, .anyOf [.allOf [], .model "java"],
    .nodeKinds (.ofNames ["type", "method"]), .relationKinds (.ofNames ["calls"])]

theorem appliesTo_monotone_sample :
    let calls : Relation := ⟨"calls", "calls", "called by", rfl⟩
    let invokes : Relation := ⟨"calls", "invokes", "invoked by", rfl⟩
    let owns : Relation := ⟨"owns", "owns", "owned by", rfl⟩
    ∃ m n more,
      Model.build "java" ["type", "method"] [calls, owns] = .ok m ∧
      Model.build "java" ["method", "type"] [owns, invokes] = .ok n ∧
      Model.build "java" ["field", "type", "method"] [owns, invokes] = .ok more ∧
      nestedSample.appliesTo m = nestedSample.appliesTo n ∧
      nestedSample.appliesTo m = true ∧ m.IncludedIn more ∧ nestedSample.appliesTo more = true := by
  intro calls invokes owns
  obtain ⟨hmono, halike, -⟩ := appliesTo_monotone
  have hkinds : ∀ k, k ∈ ["type", "method"] ↔ k ∈ ["method", "type"] := by simp [or_comm]
  have hrelations :
      ∀ i, i ∈ [calls, owns].map Relation.id ↔ i ∈ [owns, invokes].map Relation.id := by
    simp [calls, invokes, owns, or_comm]
  refine ⟨_, _, _, rfl, rfl, rfl, halike "java" _ _ _ _ _ _ rfl rfl hkinds hrelations _,
    by decide, ⟨rfl, by decide, by decide⟩, ?_⟩
  exact (hmono _ _).1 ⟨rfl, by decide, by decide⟩ nestedSample (by decide)

end Applicability

end RelGraph
