import Mathlib.Logic.Relation
import RelGraph.Proofs.Graph.History
import RelGraph.Proofs.Pipeline

/-! Pipelines that keep the same nodes. The stages of a pipeline can be put in another order, a run
of them can be made one stage, and the laws of negation can be used at any depth in them: what is
kept stays the same, since it is what every stage includes. -/

namespace RelGraph

variable {g : Graph} {id : String}

/-! ### Laws of negation -/

namespace Stage

/-- One use of a law of negation, at any depth. -/
inductive Rewrites : Stage → Stage → Prop
  | notAllOf (stages : List Stage) : Rewrites (.not (.allOf stages)) (.anyOf (stages.map .not))
  | notAnyOf (stages : List Stage) : Rewrites (.not (.anyOf stages)) (.allOf (stages.map .not))
  | notNot (s : Stage) : Rewrites (.not (.not s)) s
  | inNot {s t : Stage} (h : Rewrites s t) : Rewrites (.not s) (.not t)
  | inAllOf {s t : Stage} (before after : List Stage) (h : Rewrites s t) :
    Rewrites (.allOf (before ++ s :: after)) (.allOf (before ++ t :: after))
  | inAnyOf {s t : Stage} (before after : List Stage) (h : Rewrites s t) :
    Rewrites (.anyOf (before ++ s :: after)) (.anyOf (before ++ t :: after))
  | inNested {s t : Stage} (name : String) (before after : List Stage) (h : Rewrites s t) :
    Rewrites (.nested name (before ++ s :: after)) (.nested name (before ++ t :: after))

/-- The laws of negation hold, whatever the conventions for lists without stages. -/
theorem Rewrites.includes_iff {s t : Stage} (h : Rewrites s t) :
    s.includes g id = true ↔ t.includes g id = true := by
  induction h with
  | notAllOf stages =>
    rw [includes_not, includes_allOf, includes_anyOf]
    simp only [List.mem_map, exists_exists_and_eq_and, includes_not, not_forall, exists_prop]
  | notAnyOf stages =>
    rw [includes_not, includes_anyOf, includes_allOf]
    simp only [List.forall_mem_map, includes_not, not_exists, not_and]
  | notNot s => rw [includes_not, includes_not, not_not]
  | inNot _ ih => rw [includes_not, includes_not, ih]
  | inAllOf before after _ ih =>
    rw [includes_allOf, includes_allOf]
    simp only [List.forall_mem_append, List.forall_mem_cons, ih]
  | inAnyOf before after _ ih =>
    rw [includes_anyOf, includes_anyOf]
    simp only [List.mem_append, List.mem_cons, or_and_right, exists_or, exists_eq_left, ih]
  | inNested name before after _ ih =>
    rw [includes_nested, includes_nested]
    simp only [List.forall_mem_append, List.forall_mem_cons, ih]

end Stage

/-! ### Changes of a pipeline -/

namespace Pipeline

/-- One change of the stages of a pipeline: another order, a run of stages (an empty one too) that
is made a conjunction or a pipeline by itself, or a law of negation that is used in a stage. -/
inductive Changes : List Stage → List Stage → Prop
  | perm {stages stages' : List Stage} (h : stages.Perm stages') : Changes stages stages'
  | allOf (before run after : List Stage) :
    Changes (before ++ run ++ after) (before ++ .allOf run :: after)
  | nested (name : String) (before run after : List Stage) :
    Changes (before ++ run ++ after) (before ++ (Pipeline.mk name run).toStage :: after)
  | rewrite (before after : List Stage) {s t : Stage} (h : s.Rewrites t) :
    Changes (before ++ s :: after) (before ++ t :: after)

theorem Changes.forall_includes_iff {stages stages' : List Stage} (h : Changes stages stages') :
    (∀ s ∈ stages, s.includes g id = true) ↔ ∀ s ∈ stages', s.includes g id = true := by
  cases h with
  | perm h => simp only [h.mem_iff]
  | allOf before run after =>
    simp only [List.forall_mem_append, List.forall_mem_cons, Stage.includes_allOf, and_assoc]
  | nested name before run after =>
    simp only [List.forall_mem_append, List.forall_mem_cons, toStage, Stage.includes_nested,
      and_assoc]
  | rewrite before after h =>
    simp only [List.forall_mem_append, List.forall_mem_cons, h.includes_iff]

/-- Any number of changes, made or undone. -/
theorem forall_includes_iff_of_eqvGen {stages stages' : List Stage}
    (h : Relation.EqvGen Changes stages stages') :
    (∀ s ∈ stages, s.includes g id = true) ↔ ∀ s ∈ stages', s.includes g id = true := by
  induction h with
  | rel _ _ h => exact h.forall_includes_iff
  | refl => exact Iff.rfl
  | symm _ _ _ ih => exact ih.symm
  | trans _ _ _ _ _ ih ih' => exact ih.trans ih'

theorem mem_filter_iff {p : Pipeline} :
    id ∈ p.filter g ↔ id ∈ g.ids ∧ ∀ s ∈ p.stages, s.includes g id = true := by
  rw [filter, List.mem_filter, includes_iff]

/-- Pipelines of which one comes from the other by changes keep the same nodes in the same order,
whatever they are called. The nodes that are kept are those that every stage includes, in the order
of the graph. -/
theorem filter_eq_of_changes :
    (∀ p q : Pipeline, Relation.EqvGen Changes p.stages q.stages → ∀ g, p.filter g = q.filter g) ∧
    ∀ (p : Pipeline) (g : Graph), (p.filter g).Sublist g.ids ∧
      ∀ id, id ∈ p.filter g ↔ id ∈ g.ids ∧ ∀ s ∈ p.stages, s.includes g id = true := by
  refine ⟨fun p q h g => ?_, fun p g => ⟨List.filter_sublist, fun _ => mem_filter_iff⟩⟩
  refine List.filter_congr fun id _ => ?_
  rw [Bool.eq_iff_iff, includes_iff, includes_iff]
  exact forall_includes_iff_of_eqvGen h

/-- Everything but the node `a`, by negations in a conjunction. -/
def notASample : Stage := .allOf [.not (.ofMembers ["a"]), .not (.anyOf [])]

def membersSample : Stage := .ofMembers ["c", "b"]

/-- The negation stands outside, before a disjunction with an empty one in it. -/
def changeSample : Pipeline :=
  ⟨"given", [.not (.anyOf [.ofMembers ["a"], .anyOf []]), membersSample]⟩

/-- The stages are exchanged, one is a pipeline, and an empty conjunction stands between them. -/
def changedSample : Pipeline :=
  ⟨"changed", [.nested "inner" [membersSample], .allOf [], notASample]⟩

theorem filter_eq_of_changes_sample :
    let g := (Graph.empty.addNode ⟨"a", "function", "main"⟩).addNode ⟨"b", "type", "Config"⟩
    Relation.EqvGen Changes changeSample.stages changedSample.stages ∧
      changeSample.filter g = changedSample.filter g ∧ "b" ∈ changedSample.filter g ∧
      "a" ∉ changedSample.filter g := by
  intro g
  have hrewrite : Changes changeSample.stages [notASample, membersSample] :=
    .rewrite [] [membersSample] (.notAnyOf [.ofMembers ["a"], .anyOf []])
  have hperm : Changes [notASample, membersSample] [membersSample, notASample] :=
    .perm (.swap membersSample notASample [])
  have hnested : Changes [membersSample, notASample]
      [.nested "inner" [membersSample], notASample] :=
    .nested "inner" [] [membersSample] [notASample]
  have hempty : Changes [.nested "inner" [membersSample], notASample] changedSample.stages :=
    .allOf [.nested "inner" [membersSample]] [] [notASample]
  have hchanges : Relation.EqvGen Changes changeSample.stages changedSample.stages :=
    .trans _ _ _ (.rel _ _ hrewrite) (.trans _ _ _ (.rel _ _ hperm)
      (.trans _ _ _ (.rel _ _ hnested) (.rel _ _ hempty)))
  obtain ⟨hsame, hfilter⟩ := filter_eq_of_changes
  have hids : g.ids = ["a", "b"] := by
    rw [Graph.ids_addNode, Graph.ids_addNode]
    rfl
  refine ⟨hchanges, hsame _ _ hchanges g, ?_, ?_⟩
  · rw [← hsame _ _ hchanges g, (hfilter _ _).2, hids]
    decide
  · rw [← hsame _ _ hchanges g, (hfilter _ _).2, hids]
    decide

end Pipeline

end RelGraph
