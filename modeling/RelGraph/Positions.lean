import Std.Data.HashMap
import Std.Data.HashMap.Lemmas

/-! Arrays with a table of places. The table leads from the key of an entry to its place in the
array, so that an entry is found without a search. The two are written separately; they agree as
long as an entry is put at the end together with its place, and only when its key is new. -/

namespace RelGraph

variable {α : Type} {key : α → String} {places : Std.HashMap String Nat} {array : Array α}

/-- The table gives a key one place, namely that of the entry with this key, or none. -/
def Located (key : α → String) (places : Std.HashMap String Nat) (array : Array α) : Prop :=
  ∀ k i, places[k]? = some i ↔ array[i]?.map key = some k

namespace Located

theorem empty : Located key ∅ #[] := by simp [Located]

/-- Every place in the table is one of the array. -/
theorem lt_size (h : Located key places array) {k : String} {i : Nat} (hi : places[k]? = some i) :
    i < array.size := by
  obtain ⟨a, ha, -⟩ := Option.map_eq_some_iff.1 ((h k i).1 hi)
  exact (Array.getElem?_eq_some_iff.1 ha).1

/-- An entry with a new key is put at the end, and its place is written down. -/
theorem push (h : Located key places array) {a : α} (ha : places[key a]? = none) :
    Located key (places.insert (key a) array.size) (array.push a) := by
  intro k i
  rw [Std.HashMap.getElem?_insert, Array.getElem?_push]
  by_cases hk : key a = k
  · subst hk
    have hnone : array[i]?.map key ≠ some (key a) := by
      intro hi
      simp [(h (key a) i).2 hi] at ha
    by_cases hi : i = array.size
    · simp [hi]
    · simpa [hi, Ne.symm hi] using hnone
  · by_cases hi : i = array.size
    · subst hi
      have hbeyond : places[k]? ≠ some array.size := fun hi => Nat.lt_irrefl _ (h.lt_size hi)
      simp [hk, hbeyond]
    · simp [hk, hi, h k i]

theorem exists_place_iff (h : Located key places array) {k : String} :
    (∃ i, places[k]? = some i) ↔ k ∈ array.toList.map key := by
  simp only [h k, List.mem_iff_getElem?, List.getElem?_map, Array.getElem?_toList]

theorem contains_iff (h : Located key places array) {k : String} :
    places.contains k = true ↔ k ∈ array.toList.map key := by
  rw [← h.exists_place_iff, ← Std.HashMap.isSome_getElem?_eq_contains, Option.isSome_iff_exists]

/-- No two entries have one key, since a key has one place. -/
theorem nodup (h : Located key places array) : (array.toList.map key).Nodup := by
  rw [List.Nodup, List.pairwise_map, List.pairwise_iff_getElem]
  intro i j hi hj hij heq
  have hplace {n : Nat} (hn : n < array.toList.length) :
      places[key array.toList[n]]? = some n := (h _ n).2 (by simp [show n < array.size from hn])
  have hsame := hplace hi
  rw [heq, hplace hj] at hsame
  exact Nat.ne_of_gt hij (Option.some.inj hsame)

/-- What is found by way of the places is the entry with the key. -/
theorem bind_eq_some_iff (h : Located key places array) {k : String} {a : α} :
    (places[k]?.bind fun i => array[i]?) = some a ↔ a ∈ array.toList ∧ key a = k := by
  simp only [Option.bind_eq_some_iff, h k, List.mem_iff_getElem?, Array.getElem?_toList]
  constructor
  · rintro ⟨i, hk, hi⟩
    rw [hi] at hk
    exact ⟨⟨i, hi⟩, Option.some.inj hk⟩
  · rintro ⟨⟨i, hi⟩, hk⟩
    exact ⟨i, by rw [hi, ← hk]; rfl, hi⟩

theorem bind_eq_none_iff (h : Located key places array) {k : String} :
    (places[k]?.bind fun i => array[i]?) = none ↔ ∀ a ∈ array.toList, key a ≠ k := by
  simp only [Option.eq_none_iff_forall_ne_some, ne_eq, h.bind_eq_some_iff, not_and]

end Located

end RelGraph
