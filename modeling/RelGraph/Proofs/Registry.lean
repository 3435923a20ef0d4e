import RelGraph.Proofs.Catalog
import RelGraph.Registry

/-! What a registry takes: a model whose identifier is new and whose relations agree with those
that are registered. -/

namespace RelGraph.Registry

theorem conflict?_eq_none_iff {r : Registry} {m : Model} :
    r.conflict? m = none ↔
      ∀ own ∈ m.relations, ∀ old ∈ r.relations.entries, old.id = own.id → old = own := by
  have hagree (own : Relation) :
      ¬((r.relation? own.id).any fun old => !old.sameLabels own) = true ↔
        ∀ old ∈ r.relations.entries, old.id = own.id → old = own := by
    constructor
    · intro h old hold hid
      have hfind : r.relation? own.id = some old := Listing.find?_eq_some_iff.2 ⟨hold, hid⟩
      exact Relation.ext_of_sameLabels hid (by simpa [hfind] using h)
    · intro h
      rw [Option.any_eq_true]
      rintro ⟨old, hfind, hlabels⟩
      obtain ⟨hold, hid⟩ := Listing.find?_eq_some_iff.1 hfind
      simp [h old hold hid, Relation.sameLabels] at hlabels
  rw [conflict?, List.find?_eq_none]
  exact forall₂_congr fun own _ => hagree own

theorem register_eq_ok {r r' : Registry} {m : Model} :
    r.register m = .ok r' ↔ m.id ∉ r.models.keys ∧
      (∀ own ∈ m.relations, ∀ old ∈ r.relations.entries, old.id = own.id → old = own) ∧
        r' = ⟨r.models.add m, m.relations.foldl Listing.add r.relations⟩ := by
  rw [register, ← conflict?_eq_none_iff]
  by_cases hid : m.id ∈ r.models.keys
  · rw [if_pos (Listing.contains_iff.2 hid)]
    simp [hid]
  · rw [if_neg (fun h => hid (Listing.contains_iff.1 h))]
    cases r.conflict? m with
    | none => simp [hid, eq_comm]
    | some own => simp

end RelGraph.Registry
