import Mathlib.Data.List.Basic
import RelGraph.Proofs.Config.Ranges

/-! Range keys read as arithmetic. The key that is set says of every count whether the range
includes it; without a key every count is included. The keys come in four pairs of opposites, and of
two opposite keys with the same bounds exactly one includes a count. -/

namespace RelGraph.Config.RangeKeys

/-- The count satisfies a key that is set. -/
inductive Satisfied (k : RangeKeys) (v : Nat) : Prop
  | equal {n : Nat} (set : k.equal = some n) (holds : v = n)
  | notEqual {n : Nat} (set : k.notEqual = some n) (holds : v ≠ n)
  | lessThan {n : Nat} (set : k.lessThan = some n) (holds : v < n)
  | atMost {n : Nat} (set : k.atMost = some n) (holds : v ≤ n)
  | greaterThan {n : Nat} (set : k.greaterThan = some n) (holds : n < v)
  | atLeast {n : Nat} (set : k.atLeast = some n) (holds : n ≤ v)
  | between {min max : Nat} (set : k.between = some (min, max)) (holds : min ≤ v ∧ v ≤ max)
  | outside {min max : Nat} (set : k.outside = some (min, max)) (holds : ¬(min ≤ v ∧ v ≤ max))

/-- Every key exchanged for its opposite, with the same bounds. -/
def opposite (k : RangeKeys) : RangeKeys where
  equal := k.notEqual
  notEqual := k.equal
  lessThan := k.atLeast
  atMost := k.greaterThan
  greaterThan := k.atMost
  atLeast := k.lessThan
  between := k.outside
  outside := k.between

variable {k : RangeKeys} {v : Nat} {range : CountRange}

/-! ### The reading of the keys -/

theorem exists_mem_filterMap_id {α : Type} {p : α → Prop} {l : List (Option α)} :
    (∃ a ∈ l.filterMap id, p a) ↔ ∃ o ∈ l, ∃ a ∈ o, p a := by
  simp only [List.mem_filterMap, id_eq]
  exact ⟨fun ⟨a, ⟨o, ho, ha⟩, hp⟩ => ⟨o, ho, a, ha, hp⟩,
    fun ⟨o, ho, a, ha, hp⟩ => ⟨a, ⟨o, ho, ha⟩, hp⟩⟩

theorem satisfied_iff : k.Satisfied v ↔ ∃ range ∈ k.ranges, range.includes v = true := by
  rw [ranges, exists_mem_filterMap_id]
  simp only [List.exists_mem_cons_iff, Option.exists_mem_map, List.not_mem_nil, false_and,
    exists_false, or_false]
  simp only [CountRange.includes, Option.mem_def, Prod.exists, beq_iff_eq, bne_iff_ne,
    decide_eq_true_eq, Bool.and_eq_true, Bool.not_eq_true', ← Bool.not_eq_true]
  constructor
  · intro h
    cases h with
    | equal set holds => exact .inl ⟨_, set, holds⟩
    | notEqual set holds => exact .inr (.inl ⟨_, set, holds⟩)
    | lessThan set holds => exact .inr (.inr (.inl ⟨_, set, holds⟩))
    | atMost set holds => exact .inr (.inr (.inr (.inl ⟨_, set, holds⟩)))
    | greaterThan set holds => exact .inr (.inr (.inr (.inr (.inl ⟨_, set, holds⟩))))
    | atLeast set holds => exact .inr (.inr (.inr (.inr (.inr (.inl ⟨_, set, holds⟩)))))
    | between set holds => exact .inr (.inr (.inr (.inr (.inr (.inr (.inl ⟨_, _, set, holds⟩))))))
    | outside set holds => exact .inr (.inr (.inr (.inr (.inr (.inr (.inr ⟨_, _, set, holds⟩))))))
  · rintro (⟨n, set, holds⟩ | ⟨n, set, holds⟩ | ⟨n, set, holds⟩ | ⟨n, set, holds⟩ |
      ⟨n, set, holds⟩ | ⟨n, set, holds⟩ | ⟨min, max, set, holds⟩ | ⟨min, max, set, holds⟩)
    · exact .equal set holds
    · exact .notEqual set holds
    · exact .lessThan set holds
    · exact .atMost set holds
    · exact .greaterThan set holds
    · exact .atLeast set holds
    · exact .between set holds
    · exact .outside set holds

theorem ranges_eq_nil_iff : k.ranges = [] ↔ k = none := by
  cases k
  simp [ranges, none]

/-- A range that the keys are resolved to includes every count when no key is set, and otherwise
those that satisfy the key that is. -/
theorem includes_iff_satisfied (h : k.toRange = .ok range) :
    range.includes v = true ↔ k = none ∨ k.Satisfied v := by
  rw [toRange] at h
  split at h
  · next hnone =>
    obtain rfl := Except.ok.inj h
    simp [CountRange.includes, ranges_eq_nil_iff.1 hnone]
  · next one hone =>
    -- the range of the only key that is set, so to satisfy some key is to satisfy this one
    have hset : k ≠ none := fun hnone => by simp [ranges_eq_nil_iff.2 hnone] at hone
    obtain rfl := checkBounds_eq_ok h
    rw [or_iff_right hset, satisfied_iff, hone]
    simp
  · cases h

/-! ### Opposite keys -/

theorem opposite_opposite (k : RangeKeys) : k.opposite.opposite = k := rfl

theorem opposite_ne_none (h : k ≠ none) : k.opposite ≠ none := by
  intro hnone
  refine h ?_
  rw [← opposite_opposite k, hnone]
  rfl

/-- As many keys are set as before. -/
theorem count_flags_opposite (k : RangeKeys) :
    k.opposite.flags.count true = k.flags.count true := by
  simp only [flags, opposite, List.count_cons, List.count_nil]
  omega

theorem Sound.opposite (h : k.Sound) : k.opposite.Sound where
  one := by rw [count_flags_opposite]; exact h.one
  between := h.outside
  outside := h.between

/-- A count satisfies an opposite key when some key does not admit it. -/
theorem satisfied_opposite_iff : k.opposite.Satisfied v ↔ ¬k.Admits v := by
  constructor
  · intro h hadmits
    cases h with
    | equal set holds => exact hadmits.notEqual _ set holds
    | notEqual set holds => exact holds (hadmits.equal _ set)
    | lessThan set holds => exact Nat.not_le.2 holds (hadmits.atLeast _ set)
    | atMost set holds => exact Nat.not_lt.2 holds (hadmits.greaterThan _ set)
    | greaterThan set holds => exact Nat.not_le.2 holds (hadmits.atMost _ set)
    | atLeast set holds => exact Nat.not_lt.2 holds (hadmits.lessThan _ set)
    | between set holds => have := hadmits.outside _ _ set; omega
    | outside set holds => exact holds (hadmits.between _ _ set)
  · intro h
    by_contra hopposite
    refine h ⟨?_, ?_, ?_, ?_, ?_, ?_, ?_, ?_⟩
    · exact fun n set => by_contra fun hn => hopposite (.notEqual set hn)
    · exact fun n set hn => hopposite (.equal set hn)
    · exact fun n set => Nat.not_le.1 fun hn => hopposite (.atLeast set hn)
    · exact fun n set => Nat.not_lt.1 fun hn => hopposite (.greaterThan set hn)
    · exact fun n set => Nat.not_le.1 fun hn => hopposite (.atMost set hn)
    · exact fun n set => Nat.not_lt.1 fun hn => hopposite (.lessThan set hn)
    · exact fun min max set => by_contra fun hn => hopposite (.outside set hn)
    · exact fun min max set => by
        by_contra hn
        exact hopposite (.between set (by omega))

/-- Opposite keys are resolved alike, and of the two ranges exactly one includes a count. -/
theorem exists_toRange_opposite (h : k.toRange = .ok range) (hset : k ≠ none) :
    ∃ other, k.opposite.toRange = .ok other ∧ ∀ v, other.includes v = !range.includes v := by
  have hsound : k.Sound := exists_toRange_iff.1 ⟨range, h⟩
  obtain ⟨other, hother⟩ := exists_toRange_iff.2 hsound.opposite
  refine ⟨other, hother, fun v => ?_⟩
  rw [Bool.eq_iff_iff, Bool.not_eq_true', ← Bool.not_eq_true, includes_of_toRange h,
    includes_iff_satisfied hother, or_iff_right (opposite_ne_none hset), satisfied_opposite_iff]

/-! ### The whole -/

/-- The keys are resolved to a range exactly when at most one of them is set and bounds are in
order. The range includes every count when no key is set, and otherwise the counts that satisfy the
key; and the opposite key is resolved to a range that includes exactly the other counts. -/
theorem toRange_reads_keys (k : RangeKeys) :
    ((∃ range, k.toRange = .ok range) ↔ k.Sound) ∧
    ∀ range, k.toRange = .ok range →
      (∀ v, range.includes v = true ↔ k = none ∨ k.Satisfied v) ∧
      (k ≠ none → ∃ other, k.opposite.toRange = .ok other ∧
        ∀ v, other.includes v = !range.includes v) :=
  ⟨exists_toRange_iff, fun _ h => ⟨fun _ => includes_iff_satisfied h, exists_toRange_opposite h⟩⟩

/-- The largest count of 64 bits. -/
def largestSample : Nat := 18446744073709551615

def nearlyAllSample : RangeKeys := { none with lessThan := some largestSample }

theorem toRange_reads_keys_sample :
    nearlyAllSample.toRange = .ok (.lessThan largestSample) ∧ nearlyAllSample ≠ none ∧
    (nearlyAllSample.Satisfied 0 ∧ (CountRange.lessThan largestSample).includes 0 = true) ∧
    ∃ other, RangeKeys.toRange { none with atLeast := some largestSample } = .ok other ∧
      other.includes 0 = false ∧ other.includes largestSample = true := by
  obtain ⟨-, hreads⟩ := toRange_reads_keys nearlyAllSample
  have hrange : nearlyAllSample.toRange = .ok (.lessThan largestSample) := rfl
  have hset : nearlyAllSample ≠ none := by decide
  have hzero : nearlyAllSample.Satisfied 0 := .lessThan rfl (by decide)
  obtain ⟨hincludes, hopposite⟩ := hreads _ hrange
  obtain ⟨other, hother, hcomplement⟩ := hopposite hset
  exact ⟨hrange, hset, ⟨hzero, (hincludes 0).2 (.inr hzero)⟩, other, hother,
    (hcomplement 0).trans (by decide), (hcomplement _).trans (by decide)⟩

end RelGraph.Config.RangeKeys
