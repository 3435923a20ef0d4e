import Mathlib.Data.List.Forall2
import RelGraph.Pipeline

/-! What stages include, by their form, and where a pipeline stops: at the first stage that does not
include the node, or after all of them. -/

namespace RelGraph

/-! ### Stages -/

namespace Stage

variable {g : Graph} {id : String}

theorem includes_all (stages : List Stage) :
    includes.all g id stages = true ↔ ∀ s ∈ stages, includes g id s = true := by
  induction stages with
  | nil => simp [includes.all]
  | cons s rest ih => simp [includes.all, ih]

theorem includes_any (stages : List Stage) :
    includes.any g id stages = true ↔ ∃ s ∈ stages, includes g id s = true := by
  induction stages with
  | nil => simp [includes.any]
  | cons s rest ih => simp [includes.any, ih]

theorem includes_allOf {stages : List Stage} :
    includes g id (.allOf stages) = true ↔ ∀ s ∈ stages, includes g id s = true := by
  rw [includes, includes_all]

theorem includes_anyOf {stages : List Stage} :
    includes g id (.anyOf stages) = true ↔ ∃ s ∈ stages, includes g id s = true := by
  rw [includes, includes_any]

theorem includes_nested {name : String} {stages : List Stage} :
    includes g id (.nested name stages) = true ↔ ∀ s ∈ stages, includes g id s = true := by
  rw [includes, includes_all]

theorem includes_not {s : Stage} :
    includes g id (.not s) = true ↔ ¬includes g id s = true := by
  rw [includes, Bool.not_eq_true', Bool.not_eq_true]

end Stage

/-! ### The first rejection -/

/-- `i` is the place of the first entry that is not accepted. -/
def FirstRejected {α : Type} (accepts : α → Prop) (l : List α) (i : Nat) : Prop :=
  (∃ a, l[i]? = some a ∧ ¬accepts a) ∧ ∀ j < i, ∀ a, l[j]? = some a → accepts a

namespace FirstRejected

variable {α β : Type} {accepts : α → Prop} {a : α} {rest : List α}

theorem zero_iff : FirstRejected accepts (a :: rest) 0 ↔ ¬accepts a := by
  simp [FirstRejected]

theorem succ_iff {i : Nat} :
    FirstRejected accepts (a :: rest) (i + 1) ↔ accepts a ∧ FirstRejected accepts rest i := by
  constructor
  · rintro ⟨hat, hbefore⟩
    exact ⟨hbefore 0 (by omega) a rfl, hat, fun j hj => hbefore (j + 1) (by omega)⟩
  · rintro ⟨ha, hat, hbefore⟩
    refine ⟨hat, fun j hj b hb => ?_⟩
    cases j with
    | zero => simp_all
    | succ j => exact hbefore j (by omega) b hb

/-- Lists that accept in the same places reject first in the same place. -/
theorem congr {accepts' : β → Prop} {l : List α} {m : List β}
    (h : List.Forall₂ (fun a b => accepts a ↔ accepts' b) l m) (i : Nat) :
    FirstRejected accepts l i ↔ FirstRejected accepts' m i := by
  induction h generalizing i with
  | nil => simp [FirstRejected]
  | cons hab _ ih =>
    cases i with
    | zero => rw [zero_iff, zero_iff, hab]
    | succ i => rw [succ_iff, succ_iff, hab, ih]

theorem findIdx?_eq_some_iff {p : α → Bool} {l : List α} {i : Nat} :
    l.findIdx? (fun a => !p a) = some i ↔ FirstRejected (p · = true) l i := by
  induction l generalizing i with
  | nil => simp [FirstRejected]
  | cons a rest ih =>
    rw [List.findIdx?_cons]
    by_cases ha : p a = true
    · cases i with
      | zero => simp [zero_iff, ha]
      | succ i => simp [succ_iff, ha, ← ih]
    · cases i with
      | zero => simp [zero_iff, ha]
      | succ i => simp [succ_iff, ha]

end FirstRejected

/-! ### Evaluation -/

namespace Pipeline

variable {p : Pipeline} {g : Graph} {id : String}

theorem evaluate_eq_rejected_iff {i : Nat} :
    p.evaluate g id = ⟨false, i + 1, some i⟩ ↔
      FirstRejected (fun s => s.includes g id = true) p.stages i := by
  rw [← FirstRejected.findIdx?_eq_some_iff, evaluate]
  cases h : p.stages.findIdx? fun s => !s.includes g id <;> simp

theorem evaluate_eq_included_iff :
    p.evaluate g id = ⟨true, p.stages.length, none⟩ ↔
      ∀ s ∈ p.stages, s.includes g id = true := by
  have hnone : (p.stages.findIdx? fun s => !s.includes g id) = none ↔
      ∀ s ∈ p.stages, s.includes g id = true := by
    simp [List.findIdx?_eq_none_iff]
  rw [← hnone, evaluate]
  cases p.stages.findIdx? fun s => !s.includes g id <;> simp

/-- A pipeline stops at the first stage that rejects, or includes the node. -/
theorem evaluate_cases (p : Pipeline) (g : Graph) (id : String) :
    (∃ i, p.evaluate g id = ⟨false, i + 1, some i⟩) ∨
      p.evaluate g id = ⟨true, p.stages.length, none⟩ := by
  rw [evaluate]
  cases p.stages.findIdx? fun s => !s.includes g id with
  | none => exact .inr rfl
  | some i => exact .inl ⟨i, rfl⟩

theorem includes_iff : p.includes g id = true ↔ ∀ s ∈ p.stages, s.includes g id = true := by
  rw [← evaluate_eq_included_iff, includes]
  rcases p.evaluate_cases g id with ⟨i, h⟩ | h <;> simp [h]

/-! ### Filtering -/

/-- The nodes that every stage includes, in the order of the graph. -/
def passing (p : Pipeline) (g : Graph) : List String :=
  g.ids.filter fun id => p.stages.all (·.includes g id)

theorem filter_eq_passing (p : Pipeline) (g : Graph) : p.filter g = p.passing g := by
  have hincludes : ∀ id, p.includes g id = p.stages.all (·.includes g id) := by
    intro id
    rw [Bool.eq_iff_iff, includes_iff, List.all_eq_true]
  rw [filter, passing, funext hincludes]

/-- Tasks keep the order in which they were started. -/
theorem filterInParallel_eq_filter (p : Pipeline) (g : Graph) :
    p.filterInParallel g = p.filter g := by
  simp only [filterInParallel, filter, Task.spawn]
  rw [List.filter_map, List.map_map]
  exact List.map_id _

end Pipeline

end RelGraph
