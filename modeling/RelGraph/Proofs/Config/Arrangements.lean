import Mathlib.Data.List.Perm.Basic
import RelGraph.Proofs.Config.Stages

/-! Configurations in another order. A stage stands in a filter at some depth, under any of the
combinations. The stages of a filter, and those of a combination in it, can be put in another order,
at one place after the other, and so can the filters and the other entries of a configuration. The
entries stay the same then, and so do the leaves that stand in the filters. -/

namespace RelGraph.Config

namespace StageEntry

/-! ### Depth -/

/-- The stage `s` stands in a stage, at whatever depth, or is that stage. -/
inductive Within (s : StageEntry) : StageEntry → Prop
  | refl : Within s s
  | not {t : StageEntry} (h : Within s t) : Within s (.not t)
  | all {t : StageEntry} {stages : List StageEntry} (mem : t ∈ stages) (h : Within s t) :
    Within s (.all stages)
  | any {t : StageEntry} {stages : List StageEntry} (mem : t ∈ stages) (h : Within s t) :
    Within s (.any stages)

/-- No stages stand in the stage. -/
def IsLeaf : StageEntry → Prop
  | .nodeKinds _ | .namePattern _ | .members _ | .degree _ _ _ => True
  | .not _ | .all _ | .any _ => False

variable {s t : StageEntry} {stages : List StageEntry}

theorem Within.eq_of_leaf (h : Within s t) (ht : t.IsLeaf) : s = t := by
  cases h with
  | refl => rfl
  | not | all | any => exact ht.elim

section Leaves

variable (hs : s.IsLeaf)
include hs

theorem within_not_iff : Within s (.not t) ↔ Within s t := by
  constructor
  · rintro (_ | h)
    · exact hs.elim
    · exact h
  · exact .not

theorem within_all_iff : Within s (.all stages) ↔ ∃ t ∈ stages, Within s t := by
  constructor
  · rintro (_ | _ | ⟨mem, h⟩)
    · exact hs.elim
    · exact ⟨_, mem, h⟩
  · rintro ⟨t, mem, h⟩
    exact .all mem h

theorem within_any_iff : Within s (.any stages) ↔ ∃ t ∈ stages, Within s t := by
  constructor
  · rintro (_ | _ | _ | ⟨mem, h⟩)
    · exact hs.elim
    · exact ⟨_, mem, h⟩
  · rintro ⟨t, mem, h⟩
    exact .any mem h

end Leaves

/-! ### Order -/

/-- The same stages in another order, at whatever depth. One list of stages is put in another order
at a time: the whole list, or that of a stage in it. -/
inductive Rearranged : List StageEntry → List StageEntry → Prop
  | perm {l m : List StageEntry} (h : l.Perm m) : Rearranged l m
  | not {l m : List StageEntry} {s t : StageEntry} (h : Rearranged [s] [t]) :
    Rearranged (l ++ .not s :: m) (l ++ .not t :: m)
  | all {l m stages stages' : List StageEntry} (h : Rearranged stages stages') :
    Rearranged (l ++ .all stages :: m) (l ++ .all stages' :: m)
  | any {l m stages stages' : List StageEntry} (h : Rearranged stages stages') :
    Rearranged (l ++ .any stages :: m) (l ++ .any stages' :: m)
  | trans {l m n : List StageEntry} (h : Rearranged l m) (h' : Rearranged m n) : Rearranged l n

/-- In another order the same leaves stand in the stages. -/
theorem Rearranged.leaf_iff {l m : List StageEntry} (h : Rearranged l m) (hs : s.IsLeaf) :
    (∃ t ∈ l, Within s t) ↔ ∃ t ∈ m, Within s t := by
  induction h with
  | perm h => simp only [h.mem_iff]
  | not _ ih =>
    simp only [List.mem_append, List.mem_cons, or_and_right, exists_or, exists_eq_left,
      within_not_iff hs]
    simp only [List.mem_singleton, exists_eq_left] at ih
    rw [ih]
  | all _ ih =>
    simp only [List.mem_append, List.mem_cons, or_and_right, exists_or, exists_eq_left,
      within_all_iff hs, ih]
  | any _ ih =>
    simp only [List.mem_append, List.mem_cons, or_and_right, exists_or, exists_eq_left,
      within_any_iff hs, ih]
  | trans _ _ ih ih' => rw [ih, ih']

theorem Rearranged.symm {l m : List StageEntry} (h : Rearranged l m) : Rearranged m l := by
  induction h with
  | perm h => exact .perm h.symm
  | not _ ih => exact .not ih
  | all _ ih => exact .all ih
  | any _ ih => exact .any ih
  | trans _ _ ih ih' => exact .trans ih' ih

end StageEntry

namespace FilterEntry

/-- The stage stands in the filter, at whatever depth. -/
def Has (f : FilterEntry) (s : StageEntry) : Prop := ∃ t ∈ f.stages, s.Within t

/-- The same filters in another order, with their stages in another order. -/
inductive Rearranged : List FilterEntry → List FilterEntry → Prop
  | perm {l m : List FilterEntry} (h : l.Perm m) : Rearranged l m
  | stages {l m : List FilterEntry} {name : String} {stages stages' : List StageEntry}
    (h : StageEntry.Rearranged stages stages') :
    Rearranged (l ++ ⟨name, stages⟩ :: m) (l ++ ⟨name, stages'⟩ :: m)
  | trans {l m n : List FilterEntry} (h : Rearranged l m) (h' : Rearranged m n) : Rearranged l n

variable {l m : List FilterEntry}

theorem Rearranged.names_perm (h : Rearranged l m) : (l.map name).Perm (m.map name) := by
  induction h with
  | perm h => exact h.map name
  | stages _ => simp
  | trans _ _ ih ih' => exact ih.trans ih'

/-- In another order the same leaves stand in the filters. -/
theorem Rearranged.has_iff (h : Rearranged l m) {s : StageEntry} (hs : s.IsLeaf) :
    (∃ f ∈ l, f.Has s) ↔ ∃ f ∈ m, f.Has s := by
  induction h with
  | perm h => simp only [h.mem_iff]
  | stages h =>
    simp only [List.mem_append, List.mem_cons, or_and_right, exists_or, exists_eq_left, Has,
      h.leaf_iff hs]
  | trans _ _ ih ih' => rw [ih, ih']

theorem Rearranged.symm (h : Rearranged l m) : Rearranged m l := by
  induction h with
  | perm h => exact .perm h.symm
  | stages h => exact .stages h.symm
  | trans _ _ ih ih' => exact .trans ih' ih

end FilterEntry

/-- The same entries in another order, those of every part by themselves. -/
structure Rearranged (c c' : Config) : Prop where
  relations : c.relations.Perm c'.relations
  relationSets : c.relationSets.entries.Perm c'.relationSets.entries
  matchers : c.matchers.entries.Perm c'.matchers.entries
  models : c.models.Perm c'.models
  filters : FilterEntry.Rearranged c.filters c'.filters
  documents : c.documents.Perm c'.documents

theorem Rearranged.symm {c c' : Config} (h : c.Rearranged c') : c'.Rearranged c :=
  ⟨h.relations.symm, h.relationSets.symm, h.matchers.symm, h.models.symm, h.filters.symm,
    h.documents.symm⟩

end RelGraph.Config
