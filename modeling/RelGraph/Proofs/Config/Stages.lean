import RelGraph.Config.Resolution
import RelGraph.Proofs.Config.Validation

/-! Stage entries and what is built from them. Validation goes through an entry as the building of
its stage does, so the stage can be built exactly when the entry is accepted. -/

namespace RelGraph.Config

/-- Induction over the stages in a stage. -/
@[elab_as_elim, induction_eliminator]
theorem StageEntry.tree_induction {motive : StageEntry → Prop}
    (nodeKinds : ∀ kinds, motive (.nodeKinds kinds))
    (namePattern : ∀ pattern, motive (.namePattern pattern))
    (members : ∀ ids, motive (.members ids))
    (degree : ∀ matcher mode range, motive (.degree matcher mode range))
    (not : ∀ stage, motive stage → motive (.not stage))
    (all : ∀ stages, (∀ s ∈ stages, motive s) → motive (.all stages))
    (any : ∀ stages, (∀ s ∈ stages, motive s) → motive (.any stages))
    (entry : StageEntry) : motive entry :=
  StageEntry.rec (motive_2 := fun stages => ∀ s ∈ stages, motive s) nodeKinds namePattern members
    degree not all any (by simp) (fun _ _ hs hrest => List.forall_mem_cons.2 ⟨hs, hrest⟩) entry

variable {c : Config} {matchers : NamedMatchers}

theorem each_buildStage (stages : List StageEntry) :
    buildStage.each matchers stages = stages.mapM (buildStage matchers) := by
  induction stages with
  | nil => rfl
  | cons s rest ih => rw [buildStage.each, ih, List.mapM_cons]

/-- Checking an entry and building its stage come to the same, problem included, when the matchers
have the configured names. -/
theorem checkStage_eq_map_buildStage (hkeys : ∀ k, k ∈ matchers.keys ↔ k ∈ c.matchers.keys)
    (entry : StageEntry) : c.checkStage entry = (buildStage matchers entry).map fun _ => () := by
  induction entry with
  | nodeKinds kinds => rfl
  | members ids => rfl
  | namePattern pattern =>
    rw [checkStage, buildStage, Pattern.compiles]
    cases Pattern.compile? pattern <;> rfl
  | degree matcher mode range =>
    rw [checkStage, buildStage]
    cases hfind : matchers.find? matcher with
    | none =>
      have hkey : matcher ∉ c.matchers.keys :=
        fun h => Listing.find?_eq_none_iff.1 hfind ((hkeys matcher).2 h)
      rw [if_neg (fun h => hkey (Listing.contains_iff.1 h))]
      rfl
    | some e =>
      obtain ⟨hmem, hname⟩ := Listing.find?_eq_some_iff.1 hfind
      have hkey : matcher ∈ c.matchers.keys := (hkeys matcher).1 (List.mem_map.2 ⟨e, hmem, hname⟩)
      rw [if_pos (Listing.contains_iff.2 hkey)]
      cases range.toRange <;> rfl
  | not stage ih =>
    rw [checkStage, buildStage, ih]
    cases buildStage matchers stage <;> rfl
  | all stages ih | any stages ih =>
    rw [checkStage, buildStage, each_checkStage, each_buildStage, Outcome.forM_eq_map_mapM ih]
    cases stages.mapM (buildStage matchers) <;> rfl

theorem exists_buildStage_iff (hkeys : ∀ k, k ∈ matchers.keys ↔ k ∈ c.matchers.keys)
    {entry : StageEntry} :
    (∃ s, buildStage matchers entry = .ok s) ↔ c.checkStage entry = .ok () := by
  rw [checkStage_eq_map_buildStage hkeys, Outcome.map_eq_ok]
  simp

end RelGraph.Config
