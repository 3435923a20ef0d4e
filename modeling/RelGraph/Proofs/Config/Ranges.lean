import Mathlib.Data.Option.Basic
import RelGraph.Config.RangeKeys

/-! Range keys and the range they are resolved to. There is one exactly when at most one key is set
and bounds are in order, and the range includes the counts that this key admits. -/

namespace RelGraph.Config.RangeKeys

/-- Every key that is set admits the count. -/
structure Admits (k : RangeKeys) (v : Nat) : Prop where
  equal : ∀ n, k.equal = some n → v = n
  notEqual : ∀ n, k.notEqual = some n → v ≠ n
  lessThan : ∀ n, k.lessThan = some n → v < n
  atMost : ∀ n, k.atMost = some n → v ≤ n
  greaterThan : ∀ n, k.greaterThan = some n → n < v
  atLeast : ∀ n, k.atLeast = some n → n ≤ v
  between : ∀ min max, k.between = some (min, max) → min ≤ v ∧ v ≤ max
  outside : ∀ min max, k.outside = some (min, max) → v < min ∨ max < v

variable {k : RangeKeys} {v : Nat}

theorem forall_mem_filterMap_id {α : Type} {p : α → Prop} {l : List (Option α)} :
    (∀ a ∈ l.filterMap id, p a) ↔ ∀ o ∈ l, ∀ a ∈ o, p a := by
  simp only [List.mem_filterMap, id_eq]
  exact ⟨fun h o ho a ha => h a ⟨o, ho, ha⟩, fun h a ⟨o, ho, ha⟩ => h o ho a ha⟩

theorem admits_iff : k.Admits v ↔ ∀ range ∈ k.ranges, range.includes v = true := by
  rw [ranges, forall_mem_filterMap_id]
  simp only [List.forall_mem_cons, Option.forall_mem_map, List.not_mem_nil, false_implies,
    implies_true, and_true]
  simp only [CountRange.includes, Option.mem_def, Prod.forall, beq_iff_eq, bne_iff_ne,
    decide_eq_true_eq, Bool.and_eq_true, Bool.not_eq_true', Bool.and_eq_false_iff,
    decide_eq_false_iff_not, Nat.not_le]
  constructor
  · intro h
    exact ⟨h.equal, h.notEqual, h.lessThan, h.atMost, h.greaterThan, h.atLeast, h.between,
      h.outside⟩
  · rintro ⟨he, hne, hlt, hle, hgt, hge, hbetween, houtside⟩
    exact ⟨he, hne, hlt, hle, hgt, hge, hbetween, houtside⟩

theorem checkBounds_eq_ok {range range' : CountRange} (h : checkBounds range = .ok range') :
    range' = range := by
  unfold checkBounds at h
  split at h
  · split at h <;> simp_all
  · split at h <;> simp_all
  · simp_all

/-- A range that the keys are resolved to includes what they admit. -/
theorem includes_of_toRange {range : CountRange} (h : k.toRange = .ok range) :
    range.includes v = true ↔ k.Admits v := by
  rw [admits_iff]
  rw [toRange] at h
  split at h
  · next hnone =>
    obtain rfl := Except.ok.inj h
    simp [hnone, CountRange.includes]
  · next one hone =>
    rw [checkBounds_eq_ok h, hone]
    simp
  · simp at h

/-! ### Which keys say a range -/

/-- Of every key, whether it is set. -/
def flags (k : RangeKeys) : List Bool :=
  [k.equal.isSome, k.notEqual.isSome, k.lessThan.isSome, k.atMost.isSome, k.greaterThan.isSome,
    k.atLeast.isSome, k.between.isSome, k.outside.isSome]

/-- At most one key is set, and bounds are in order. -/
structure Sound (k : RangeKeys) : Prop where
  one : k.flags.count true ≤ 1
  between : ∀ min max, k.between = some (min, max) → min ≤ max
  outside : ∀ min max, k.outside = some (min, max) → min ≤ max

theorem length_filterMap_id {α : Type} (l : List (Option α)) :
    (l.filterMap id).length = (l.map Option.isSome).count true := by
  rw [List.length_filterMap_eq_countP, List.count, List.countP_map]
  exact List.countP_congr fun o _ => by simp

theorem length_ranges (k : RangeKeys) : k.ranges.length = k.flags.count true := by
  rw [ranges, length_filterMap_id, flags]
  simp only [List.map_cons, List.map_nil, Option.isSome_map]

theorem between_mem_ranges {min max : Nat} :
    .between min max ∈ k.ranges ↔ k.between = some (min, max) := by
  simp [ranges]

theorem outside_mem_ranges {min max : Nat} :
    .outside min max ∈ k.ranges ↔ k.outside = some (min, max) := by
  simp [ranges]

theorem exists_checkBounds_iff {range : CountRange} :
    (∃ r, checkBounds range = .ok r) ↔ (∀ min max, range = .between min max → min ≤ max) ∧
      ∀ min max, range = .outside min max → min ≤ max := by
  cases range with
  | between min max | outside min max =>
    rw [checkBounds]
    split <;> simp_all
  | _ => simp [checkBounds]

theorem sound_iff : k.Sound ↔
    k.ranges.length ≤ 1 ∧ ∀ range ∈ k.ranges, ∃ r, checkBounds range = .ok r := by
  simp only [exists_checkBounds_iff]
  constructor
  · intro h
    refine ⟨k.length_ranges ▸ h.one, fun range hmem => ⟨?_, ?_⟩⟩
    · rintro min max rfl
      exact h.between min max (between_mem_ranges.1 hmem)
    · rintro min max rfl
      exact h.outside min max (outside_mem_ranges.1 hmem)
  · rintro ⟨hone, hbounds⟩
    refine ⟨k.length_ranges ▸ hone, fun min max h => ?_, fun min max h => ?_⟩
    · exact (hbounds _ (between_mem_ranges.2 h)).1 min max rfl
    · exact (hbounds _ (outside_mem_ranges.2 h)).2 min max rfl

/-- The ranges are several when they are neither none nor one. -/
theorem one_lt_length_ranges (hnone : k.ranges ≠ []) (hone : ∀ range, k.ranges ≠ [range]) :
    1 < k.ranges.length := by
  match hranges : k.ranges with
  | [] => exact absurd hranges hnone
  | [range] => exact absurd hranges (hone range)
  | _ :: _ :: _ => simp

/-- The keys say a range exactly when at most one of them is set and bounds are in order. -/
theorem exists_toRange_iff : (∃ range, k.toRange = .ok range) ↔ k.Sound := by
  rw [sound_iff, toRange]
  split
  · next hnone => simp [hnone]
  · next range hone => simp [hone]
  · next hnone hone =>
    have hlength : ¬k.ranges.length ≤ 1 := Nat.not_le.2 (one_lt_length_ranges hnone hone)
    simp [hlength]

end RelGraph.Config.RangeKeys
