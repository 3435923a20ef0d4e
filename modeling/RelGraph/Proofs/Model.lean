import RelGraph.Model
import RelGraph.Proofs.Keyed

/-! What a model can be built from: an identifier that is not blank, distinct kinds of which none is
blank, and relations with distinct identifiers. The model that is built names just these. -/

namespace RelGraph.Model

theorem kindFault?_eq_none_iff {id : String} {seen kinds : List String} :
    kindFault? id seen kinds = none ↔
      (∀ k ∈ kinds, Text.isBlank k = false ∧ k ∉ seen) ∧ kinds.Nodup := by
  induction kinds generalizing seen with
  | nil => simp [kindFault?]
  | cons k rest ih =>
    have hstep : kindFault? id seen (k :: rest) = none ↔
        Text.isBlank k = false ∧ k ∉ seen ∧ kindFault? id (k :: seen) rest = none := by
      rw [kindFault?]
      by_cases hblank : Text.isBlank k = true
      · simp [hblank]
      · by_cases hseen : k ∈ seen <;> simp [hblank, hseen]
    rw [hstep, ih, List.nodup_cons]
    simp only [List.mem_cons, not_or]
    constructor
    · rintro ⟨hblank, hseen, hrest, hnodup⟩
      refine ⟨?_, fun hk => (hrest k hk).2.1 rfl, hnodup⟩
      rintro k' (rfl | hk')
      · exact ⟨hblank, hseen⟩
      · exact ⟨(hrest k' hk').1, (hrest k' hk').2.2⟩
    · rintro ⟨hall, hk, hnodup⟩
      refine ⟨(hall k (.inl rfl)).1, (hall k (.inl rfl)).2, fun k' hk' => ?_, hnodup⟩
      have hother : k' ≠ k := fun he => hk (he ▸ hk')
      exact ⟨(hall k' (.inr hk')).1, hother, (hall k' (.inr hk')).2⟩

theorem relationFault?_eq_none_iff {id : String} {seen : List String} {relations : List Relation} :
    relationFault? id seen relations = none ↔
      (relations.map Relation.id).Nodup ∧ ∀ r ∈ relations, r.id ∉ seen := by
  refine ⟨nodup_of_relationFault?, ?_⟩
  induction relations generalizing seen with
  | nil => simp [relationFault?]
  | cons r rest ih =>
    rintro ⟨hnodup, hseen⟩
    rw [List.map_cons, List.nodup_cons] at hnodup
    rw [relationFault?, if_neg (hseen r (by simp))]
    refine ih ⟨hnodup.2, fun s hs hmem => ?_⟩
    rcases List.mem_cons.1 hmem with he | hmem
    · exact hnodup.1 (List.mem_map.2 ⟨s, hs, he⟩)
    · exact hseen s (by simp [hs]) hmem

theorem exists_build_iff {id : String} {kinds : List String} {relations : List Relation} :
    (∃ m, build id kinds relations = .ok m) ↔ Text.isBlank id = false ∧
      ((∀ k ∈ kinds, Text.isBlank k = false) ∧ kinds.Nodup) ∧
        (relations.map Relation.id).Nodup := by
  have hkinds : kindFault? id [] kinds = none ↔
      (∀ k ∈ kinds, Text.isBlank k = false) ∧ kinds.Nodup := by
    simp [kindFault?_eq_none_iff]
  have hrelations : relationFault? id [] relations = none ↔
      (relations.map Relation.id).Nodup := by
    simp [relationFault?_eq_none_iff]
  rw [← hkinds, ← hrelations, build]
  split
  · next hid =>
    split
    · next hk => simp [hk]
    · next hk => split <;> next hr => simp [hid, hk, hr]
  · next hid => simp [hid]

/-- A model that is built has what was contributed to it. -/
theorem of_build {id : String} {kinds : List String} {relations : List Relation} {m : Model}
    (h : build id kinds relations = .ok m) :
    m.id = id ∧ m.nodeKinds = NameSet.ofNames kinds ∧ m.relations = relations := by
  rw [build] at h
  split at h
  · split at h
    · simp at h
    · split at h
      · simp at h
      · rw [Except.ok.injEq] at h
        subst h
        exact ⟨rfl, rfl, rfl⟩
  · simp at h

theorem hasNodeKind_iff {m : Model} {k : String} :
    m.hasNodeKind k = true ↔ k ∈ m.nodeKinds.entries :=
  NameSet.contains_iff

theorem hasRelation_iff {m : Model} {id : String} :
    m.hasRelation id = true ↔ id ∈ m.relationKinds := by
  simp [hasRelation, relationKinds]

end RelGraph.Model
