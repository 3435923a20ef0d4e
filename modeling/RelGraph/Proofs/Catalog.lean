import RelGraph.Catalog
import RelGraph.Proofs.Keyed
import RelGraph.Proofs.Lists
import RelGraph.Proofs.Outcome

/-! What a catalog takes and what it gives back. Relations can be put together into one catalog
exactly when they agree, that is when none of them has the identifier of another one with other
labels. Identifiers are resolved to the relations in the catalog. -/

namespace RelGraph

namespace Relation

theorem build_eq_ok {d : Descriptor} {r : Relation} : d.build = .ok r ↔ r.descriptor = d := by
  constructor
  · intro h
    rw [Descriptor.build, make] at h
    split at h
    · cases h; rfl
    · cases h
  · rintro rfl
    exact build_descriptor r

theorem exists_build_iff {d : Descriptor} : (∃ r, d.build = .ok r) ↔ Text.isBlank d.id = false := by
  simp only [build_eq_ok]
  constructor
  · rintro ⟨r, rfl⟩
    exact r.id_not_blank
  · intro h
    exact ⟨⟨d.id, d.forward, d.reverse, h⟩, rfl⟩

end Relation

namespace Catalog

/-- No two of the relations have one identifier and different labels. -/
def Consistent (l : List Relation) : Prop := ∀ r ∈ l, ∀ s ∈ l, r.id = s.id → r = s

theorem insert_eq_ok {c c' : Catalog} {r : Relation} :
    c.insert r = .ok c' ↔ (∀ old ∈ c.entries, old.id = r.id → old = r) ∧ c' = c.add r := by
  rw [insert, get?]
  cases h : c.find? r.id with
  | none =>
    have hnew : ∀ old ∈ c.entries, old.id ≠ r.id := fun old hold he =>
      Listing.find?_eq_none_iff.1 h (List.mem_map.2 ⟨old, hold, he⟩)
    simp only [Except.ok.injEq, eq_comm (a := c'), iff_and_self]
    exact fun _ old hold he => absurd he (hnew old hold)
  | some old =>
    obtain ⟨hold, hid⟩ := Listing.find?_eq_some_iff.1 h
    have hadd : c.add r = c := Listing.ext_entries (by
      rw [Listing.entries_add]
      exact if_pos (List.mem_map.2 ⟨old, hold, hid⟩))
    simp only [hadd]
    split
    · next hlabels =>
      have he := Relation.ext_of_sameLabels hid hlabels
      simp only [Except.ok.injEq, eq_comm (a := c'), iff_and_self]
      exact fun _ o ho hoid => he ▸ Listing.eq_of_key_eq ho hold (hoid.trans hid.symm)
    · next hlabels =>
      simp only [reduceCtorEq, false_iff, not_and]
      intro hagree
      exact absurd (by simp [hagree old hold hid, Relation.sameLabels]) hlabels

theorem mem_entries_add {c : Catalog} {r s : Relation}
    (h : ∀ old ∈ c.entries, old.id = r.id → old = r) :
    s ∈ (c.add r).entries ↔ s ∈ c.entries ∨ s = r := by
  rw [Listing.entries_add]
  split
  · next hkey =>
    obtain ⟨old, hold, hid⟩ := List.mem_map.1 hkey
    have hr : r ∈ c.entries := h old hold hid ▸ hold
    exact ⟨.inl, fun hs => hs.elim id (fun e => e ▸ hr)⟩
  · simp

theorem consistent_cons_iff {c : Catalog} {r : Relation} {rest : List Relation} :
    Consistent (c.entries ++ r :: rest) ↔ (∀ old ∈ c.entries, old.id = r.id → old = r) ∧
      Consistent ((c.add r).entries ++ rest) := by
  have hmem (h : ∀ old ∈ c.entries, old.id = r.id → old = r) (s : Relation) :
      s ∈ (c.add r).entries ++ rest ↔ s ∈ c.entries ++ r :: rest := by
    rw [List.mem_append, mem_entries_add h, List.mem_append, List.mem_cons, or_assoc]
  constructor
  · intro h
    have hold : ∀ old ∈ c.entries, old.id = r.id → old = r := fun old ho =>
      h old (by simp [ho]) r (by simp)
    exact ⟨hold, fun s hs t ht => h s ((hmem hold s).1 hs) t ((hmem hold t).1 ht)⟩
  · rintro ⟨hold, h⟩ s hs t ht
    exact h s ((hmem hold s).2 hs) t ((hmem hold t).2 ht)

theorem foldlM_insert_eq_ok {c c' : Catalog} {l : List Relation} :
    l.foldlM insert c = .ok c' ↔ Consistent (c.entries ++ l) ∧ c' = l.foldl Listing.add c := by
  induction l generalizing c with
  | nil =>
    have hc : Consistent (c.entries ++ []) := by
      rw [List.append_nil]
      exact fun r hr s hs he => Listing.eq_of_key_eq hr hs he
    rw [List.foldlM_nil, Outcome.pure_eq_ok, List.foldl_nil, and_iff_right hc, eq_comm]
  | cons r rest ih =>
    rw [List.foldlM_cons, Outcome.bind_eq_ok, List.foldl_cons, consistent_cons_iff]
    constructor
    · rintro ⟨d, hd, hrest⟩
      obtain ⟨hold, rfl⟩ := insert_eq_ok.1 hd
      exact ⟨⟨hold, (ih.1 hrest).1⟩, (ih.1 hrest).2⟩
    · rintro ⟨⟨hold, h⟩, rfl⟩
      exact ⟨c.add r, insert_eq_ok.2 ⟨hold, rfl⟩, ih.2 ⟨h, rfl⟩⟩

theorem ofRelations_eq_ok {l : List Relation} {c : Catalog} :
    ofRelations l = .ok c ↔ Consistent l ∧ c = Listing.ofList l := by
  rw [ofRelations, foldlM_insert_eq_ok]
  rfl

/-! ### Resolving -/

theorem resolve_eq_ok {c : Catalog} {id : String} {r : Relation} :
    c.resolve id = .ok r ↔ r ∈ c.entries ∧ r.id = id := by
  rw [resolve, get?]
  by_cases hblank : Text.isBlank id = true
  · rw [if_pos hblank]
    simp only [reduceCtorEq, false_iff, not_and]
    rintro - rfl
    simp [r.id_not_blank] at hblank
  · rw [if_neg hblank, ← Listing.find?_eq_some_iff]
    cases c.find? id <;> simp

theorem resolveAll_eq_ok {c : Catalog} {ids : List String} {l : List Relation} :
    c.resolveAll ids = .ok l ↔ l.map Relation.id = ids ∧ ∀ r ∈ l, r ∈ c.entries := by
  rw [resolveAll, Outcome.mapM_eq_ok]
  simp only [resolve_eq_ok]
  constructor
  · intro h
    refine ⟨?_, fun r hr => ?_⟩
    · simpa using h.map_eq_map (f := id) (g := Relation.id) fun _ _ hr => hr.2
    · obtain ⟨_, -, hentry, -⟩ := h.exists_mem_left hr
      exact hentry
  · rintro ⟨rfl, h⟩
    exact List.forall₂_map_left_iff.2 (List.forall₂_same.2 fun r hr => ⟨h r hr, rfl⟩)

theorem exists_resolveAll_iff {c : Catalog} {ids : List String} :
    (∃ l, c.resolveAll ids = .ok l) ↔ ∀ id ∈ ids, id ∈ c.keys := by
  rw [resolveAll, Outcome.exists_mapM_eq_ok]
  simp [resolve_eq_ok, Listing.keys]

end Catalog

end RelGraph
