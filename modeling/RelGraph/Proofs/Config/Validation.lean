import RelGraph.Config.Validation
import RelGraph.Proofs.Keyed
import RelGraph.Proofs.Outcome

/-! What validation accepts, check by check. The checks of a configuration stop at the first
problem, so all of them pass exactly when every entry of every part is fine by itself and the names
that have to be distinct are. -/

namespace RelGraph.Config

variable {c : Config}

theorem checkName_eq_ok {part : Section} {name : String} :
    checkName part name = .ok () ↔ Text.isBlank name = false := by
  rw [checkName]
  split <;> simp_all

theorem checkName_bind_eq_ok {part : Section} {name : String} {rest : Except Problem Unit} :
    (checkName part name >>= fun _ => rest) = .ok () ↔
      Text.isBlank name = false ∧ rest = .ok () := by
  rw [Outcome.bind_eq_ok]
  exact ⟨fun ⟨(), hname, h⟩ => ⟨checkName_eq_ok.1 hname, h⟩,
    fun ⟨hname, h⟩ => ⟨(), checkName_eq_ok.2 hname, h⟩⟩

/-- A check that faults the first entry of a kind accepts the lists without such an entry. -/
theorem find?_eq_ok {p : String → Bool} {fault : String → Problem} {l : List String} :
    (match l.find? p with
      | some missing => Except.error (fault missing)
      | none => Except.ok ()) = Except.ok () ↔ ∀ a ∈ l, p a = false := by
  cases h : l.find? p with
  | none => simpa using h
  | some missing =>
    simp only [reduceCtorEq, false_iff]
    intro hall
    have hp := List.find?_some h
    simp [hall missing (List.mem_of_find?_eq_some h)] at hp

/-- Distinct names that are not seen yet are not blank, and the rest of each entry is fine. -/
theorem checkDistinct_eq_ok {α : Type} {part : Section} {name : α → String}
    {check : α → Except Problem Unit} {seen : List String} {l : List α} :
    checkDistinct part name check seen l = .ok () ↔
      (∀ a ∈ l, Text.isBlank (name a) = false ∧ check a = .ok ()) ∧
        (l.map name).Nodup ∧ ∀ a ∈ l, name a ∉ seen := by
  induction l generalizing seen with
  | nil => simp [checkDistinct]
  | cons a rest ih =>
    have hstep : checkDistinct part name check seen (a :: rest) = .ok () ↔
        checkName part (name a) = .ok () ∧ name a ∉ seen ∧ check a = .ok () ∧
          checkDistinct part name check (name a :: seen) rest = .ok () := by
      rw [checkDistinct]
      by_cases hseen : name a ∈ seen
      · simp [hseen, Outcome.bind_eq_ok, throw, throwThe, MonadExceptOf.throw]
      · simp only [hseen, if_false, Outcome.bind_eq_ok]
        constructor
        · rintro ⟨⟨⟩, hname, ⟨⟩, hcheck, hrest⟩
          exact ⟨hname, not_false, hcheck, hrest⟩
        · rintro ⟨hname, -, hcheck, hrest⟩
          exact ⟨(), hname, (), hcheck, hrest⟩
    rw [hstep, ih, checkName_eq_ok, List.map_cons, List.nodup_cons]
    simp only [List.mem_cons, not_or, List.mem_map]
    constructor
    · rintro ⟨hblank, hseen, hcheck, hrest, hnodup, hnew⟩
      refine ⟨?_, ⟨?_, hnodup⟩, ?_⟩
      · rintro b (rfl | hb)
        · exact ⟨hblank, hcheck⟩
        · exact hrest b hb
      · rintro ⟨b, hb, he⟩
        exact (hnew b hb).1 he
      · rintro b (rfl | hb)
        · exact hseen
        · exact (hnew b hb).2
    · rintro ⟨hall, ⟨ha, hnodup⟩, hnew⟩
      exact ⟨(hall a (.inl rfl)).1, hnew a (.inl rfl), (hall a (.inl rfl)).2,
        fun b hb => hall b (.inr hb), hnodup,
        fun b hb => ⟨fun he => ha ⟨b, hb, he⟩, hnew b (.inr hb)⟩⟩

/-! ### Relations and sets -/

theorem conflicts_eq_false {r s : Relation.Descriptor} :
    conflicts r s = false ↔ (s.id = r.id → s = r) := by
  cases r; cases s
  simp [conflicts]
  tauto

theorem checkRelation_eq_ok {r : Relation.Descriptor} :
    c.checkRelation r = .ok () ↔
      Text.isBlank r.id = false ∧ ∀ s ∈ c.relations, s.id = r.id → s = r := by
  rw [checkRelation]
  by_cases hblank : Text.isBlank r.id = true
  · simp [hblank]
  · rw [if_neg hblank, Bool.not_eq_true] at *
    simp only [hblank, true_and, ← conflicts_eq_false]
    split <;> simp_all

theorem checkRelationIds_eq_ok {ids : List String} :
    c.checkRelationIds ids = .ok () ↔ ∀ id ∈ ids, id ∈ c.relationIds := by
  rw [checkRelationIds]
  refine find?_eq_ok.trans ?_
  simp

theorem checkSet_eq_ok {e : String × List String} :
    c.checkSet e = .ok () ↔ Text.isBlank e.1 = false ∧ ∀ id ∈ e.2, id ∈ c.relationIds := by
  rw [checkSet, checkName_bind_eq_ok, checkRelationIds_eq_ok]

/-! ### Matchers -/

/-- What an entry refers to is declared: a set, or other matchers. -/
def EntryDeclared (c : Config) : MatcherEntry → Prop
  | .within set _ _ => set ∈ c.relationSets.keys
  | .all names | .any names => ∀ n ∈ names, n ∈ c.matchers.keys
  | .deny => True

/-- What the matchers refer to is declared. -/
def ReferencesDeclared (c : Config) : Prop := ∀ e ∈ c.matchers.entries, c.EntryDeclared e.2

theorem checkMatcherEntry_eq_ok {entry : MatcherEntry} :
    c.checkMatcherEntry entry = .ok () ↔ c.EntryDeclared entry := by
  cases entry with
  | within set forward reverse =>
    rw [checkMatcherEntry, EntryDeclared, ← Listing.contains_iff]
    split <;> simp_all
  | all names | any names =>
    rw [checkMatcherEntry, EntryDeclared]
    refine find?_eq_ok.trans ?_
    simp [← Listing.contains_iff]
  | deny => simp [checkMatcherEntry, EntryDeclared]

theorem checkMatcher_eq_ok {e : String × MatcherEntry} :
    c.checkMatcher e = .ok () ↔ Text.isBlank e.1 = false ∧ c.EntryDeclared e.2 := by
  rw [checkMatcher, checkName_bind_eq_ok, checkMatcherEntry_eq_ok]

/-! ### Stages -/

theorem each_checkStage (stages : List StageEntry) :
    checkStage.each c stages = stages.forM c.checkStage := by
  induction stages with
  | nil => rfl
  | cons s rest ih => rw [checkStage.each, ih]; rfl

/-! ### The whole -/

theorem validate_eq_ok :
    c.validate = .ok () ↔
      (∀ r ∈ c.relations, c.checkRelation r = .ok ()) ∧
      (∀ e ∈ c.relationSets.entries, c.checkSet e = .ok ()) ∧
      (∀ e ∈ c.matchers.entries, c.checkMatcher e = .ok ()) ∧
      ((∀ m ∈ c.models, Text.isBlank m.id = false ∧ c.checkRelationIds m.relations = .ok ()) ∧
        (c.models.map ModelEntry.id).Nodup) ∧
      ((∀ f ∈ c.filters, Text.isBlank f.name = false ∧ ∀ s ∈ f.stages, c.checkStage s = .ok ()) ∧
        (c.filters.map FilterEntry.name).Nodup) ∧
      (∀ d ∈ c.documents, Text.isBlank d.name = false) ∧ (c.documents.map (·.name)).Nodup := by
  have hchain : c.validate = .ok () ↔
      c.relations.forM c.checkRelation = .ok () ∧
      c.relationSets.entries.forM c.checkSet = .ok () ∧
      c.matchers.entries.forM c.checkMatcher = .ok () ∧
      checkDistinct .model ModelEntry.id (fun m => c.checkRelationIds m.relations) [] c.models =
        .ok () ∧
      checkDistinct .filter FilterEntry.name (fun f => checkStage.each c f.stages) [] c.filters =
        .ok () ∧
      checkDistinct .document (fun d : DocumentEntry => d.name) (fun _ => .ok ()) [] c.documents =
        .ok () := by
    simp only [validate, Outcome.bind_eq_ok]
    constructor
    · rintro ⟨⟨⟩, hr, ⟨⟩, hs, ⟨⟩, hm, ⟨⟩, hmodels, ⟨⟩, hf, hd⟩
      exact ⟨hr, hs, hm, hmodels, hf, hd⟩
    · rintro ⟨hr, hs, hm, hmodels, hf, hd⟩
      exact ⟨(), hr, (), hs, (), hm, (), hmodels, (), hf, hd⟩
  rw [hchain]
  simp only [Outcome.forM_eq_ok, checkDistinct_eq_ok, each_checkStage, List.not_mem_nil,
    not_false_eq_true, implies_true, and_true]

end RelGraph.Config
