import Mathlib.Order.Bounds.Basic
import RelGraph.Proofs.Pipeline

/-! Pipelines in two pieces. The second piece is looked at only when the first one includes the
node, and then its evaluation is that of the whole pipeline with its places shifted by the length of
the first piece. The fields of an evaluation go together: they all tell where the first stage that
excludes the node stands, or that there is none. -/

namespace RelGraph

variable {g : Graph} {id : String}

/-! ### Excluding stages -/

namespace Stage

variable {stages : List Stage} {i : ℕ}

/-- The places of the stages that exclude the node. -/
def excluding (g : Graph) (id : String) (stages : List Stage) : Set ℕ :=
  {i | ∃ h : i < stages.length, stages[i].includes g id = false}

theorem mem_excluding_iff :
    i ∈ excluding g id stages ↔ ∃ s, stages[i]? = some s ∧ ¬s.includes g id = true := by
  simp only [excluding, Set.mem_ofPred_eq, List.getElem?_eq_some_iff, Bool.not_eq_true]
  constructor
  · rintro ⟨hi, hs⟩
    exact ⟨stages[i], ⟨hi, rfl⟩, hs⟩
  · rintro ⟨s, ⟨hi, rfl⟩, hs⟩
    exact ⟨hi, hs⟩

theorem excluding_eq_empty_iff :
    excluding g id stages = ∅ ↔ ∀ s ∈ stages, s.includes g id = true := by
  rw [Set.eq_empty_iff_forall_notMem, List.forall_mem_iff_forall_getElem]
  refine forall_congr' fun i => ?_
  simp [excluding]

theorem firstRejected_iff_isLeast :
    FirstRejected (fun s => s.includes g id = true) stages i ↔
      IsLeast (excluding g id stages) i := by
  rw [FirstRejected, IsLeast, mem_excluding_iff, and_congr_right_iff]
  intro _
  constructor
  · intro hbefore j hj
    obtain ⟨s, hs, hexcluded⟩ := mem_excluding_iff.1 hj
    by_contra hlt
    exact hexcluded (hbefore j (by omega) s hs)
  · intro hleast j hj s hs
    by_contra hexcluded
    have hle : i ≤ j := hleast (mem_excluding_iff.2 ⟨s, hs, hexcluded⟩)
    omega

end Stage

/-! ### Fields that go together -/

namespace Evaluation

/-- The evaluation when `n` stages that include the node run before. -/
def after (n : ℕ) (e : Evaluation) : Evaluation :=
  ⟨e.included, n + e.stagesRun, e.rejectedBy.map (n + ·)⟩

/-- What the fields of an evaluation say of the stages and of each other. -/
structure Locates (e : Evaluation) (g : Graph) (id : String) (stages : List Stage) : Prop where
  included_iff : e.included = true ↔ e.rejectedBy = none
  rejectedBy_eq_none_iff : e.rejectedBy = none ↔ ∀ s ∈ stages, s.includes g id = true
  rejectedBy_eq_some_iff : ∀ i, e.rejectedBy = some i ↔ IsLeast (Stage.excluding g id stages) i
  stagesRun_eq : e.stagesRun = (e.rejectedBy.map (· + 1)).getD stages.length

variable {stages : List Stage}

theorem locates_rejected {i : ℕ} (h : IsLeast (Stage.excluding g id stages) i) :
    (Evaluation.mk false (i + 1) (some i)).Locates g id stages where
  included_iff := by simp
  rejectedBy_eq_none_iff := by
    rw [← Stage.excluding_eq_empty_iff]
    exact iff_of_false (Option.some_ne_none i) (Set.nonempty_iff_ne_empty.1 h.nonempty)
  rejectedBy_eq_some_iff j := by
    rw [Option.some.injEq]
    exact ⟨fun hij => hij ▸ h, h.unique⟩
  stagesRun_eq := rfl

theorem locates_included (h : ∀ s ∈ stages, s.includes g id = true) :
    (Evaluation.mk true stages.length none).Locates g id stages where
  included_iff := by simp
  rejectedBy_eq_none_iff := iff_of_true rfl h
  rejectedBy_eq_some_iff j := by
    rw [Stage.excluding_eq_empty_iff.2 h]
    exact iff_of_false (Option.some_ne_none j).symm fun hleast => hleast.1
  stagesRun_eq := rfl

end Evaluation

namespace Pipeline

theorem locates_evaluate (p : Pipeline) (g : Graph) (id : String) :
    (p.evaluate g id).Locates g id p.stages := by
  rcases p.evaluate_cases g id with ⟨i, h⟩ | h
  · rw [h]
    exact Evaluation.locates_rejected
      (Stage.firstRejected_iff_isLeast.1 (evaluate_eq_rejected_iff.1 h))
  · rw [h]
    exact Evaluation.locates_included (evaluate_eq_included_iff.1 h)

/-! ### Two pieces -/

theorem evaluate_append (name : String) (p q : Pipeline) (g : Graph) (id : String) :
    (Pipeline.mk name (p.stages ++ q.stages)).evaluate g id =
      if (p.evaluate g id).included then (q.evaluate g id).after p.stages.length
      else p.evaluate g id := by
  let excludes : Stage → Bool := fun s => !s.includes g id
  rcases Option.eq_none_or_eq_some (p.stages.findIdx? excludes) with hp | ⟨i, hp⟩
  · -- the first piece includes the node, so the search goes on in the second one
    have hwhole : (p.stages ++ q.stages).findIdx? excludes =
        (q.stages.findIdx? excludes).map (p.stages.length + ·) := by
      simp [List.findIdx?_append, hp, Nat.add_comm]
    have hincluded : p.evaluate g id = ⟨true, p.stages.length, none⟩ := by
      rw [evaluate, hp]
    rw [hincluded, if_pos rfl, evaluate, hwhole, evaluate]
    cases q.stages.findIdx? excludes with
    | none => simp [Evaluation.after]
    | some j => simp [Evaluation.after, Nat.add_assoc]
  · have hwhole : (p.stages ++ q.stages).findIdx? excludes = some i := by
      rw [List.findIdx?_append, hp, Option.some_or]
    have hrejected : p.evaluate g id = ⟨false, i + 1, some i⟩ := by
      rw [evaluate, hp]
    rw [hrejected, if_neg Bool.false_ne_true, evaluate, hwhole]

/-- Two pieces are evaluated one after the other, whatever they are called: one that rejects the
node answers for the whole, and one that does not only shifts the places of what follows. Every
evaluation tells by all of its fields where the first stage that excludes the node stands. -/
theorem evaluate_append_and_locates :
    (∀ (name : String) (p q : Pipeline) (g : Graph) (id : String),
      (Pipeline.mk name (p.stages ++ q.stages)).evaluate g id =
        if (p.evaluate g id).included then (q.evaluate g id).after p.stages.length
        else p.evaluate g id) ∧
    ∀ (p : Pipeline) (g : Graph) (id : String), (p.evaluate g id).Locates g id p.stages :=
  ⟨evaluate_append, locates_evaluate⟩

end Pipeline

end RelGraph
