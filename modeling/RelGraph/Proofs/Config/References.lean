import Mathlib.Logic.Relation
import RelGraph.Config.Resolution
import RelGraph.Proofs.Config.Validation

/-! References between the configured matchers. A matcher is put together from the matchers that
its entry refers to, along a path of references. When every reference is declared, building a
matcher fails exactly when its references lead to a cycle, or back to the path. -/

namespace RelGraph.Config

/-! ### The reference graph -/

/-- The entry of `a` refers to `b`. -/
def Refers (c : Config) (a b : String) : Prop :=
  ∃ entry, (a, entry) ∈ c.matchers.entries ∧ b ∈ entry.references

/-- No matcher refers to itself, be it through others. -/
def Acyclic (c : Config) : Prop := ∀ name, ¬Relation.TransGen c.Refers name name

variable {c : Config} {sets : NamedSets}

/-- A matcher that only refers to matchers of a lower rank does not refer to itself. -/
theorem acyclic_of_rank (rank : String → Nat)
    (h : ∀ e ∈ c.matchers.entries, ∀ n ∈ e.2.references, rank n < rank e.1) : c.Acyclic := by
  have hstep {a b : String} (hab : c.Refers a b) : rank b < rank a := by
    obtain ⟨entry, hentry, hb⟩ := hab
    exact h _ hentry b hb
  have hlower {a b : String} (hab : Relation.TransGen c.Refers a b) : rank b < rank a := by
    induction hab with
    | single hb => exact hstep hb
    | tail _ hb ih => exact Nat.lt_trans (hstep hb) ih
  intro name hcycle
  exact Nat.lt_irrefl _ (hlower hcycle)

theorem EntryDeclared.references {entry : MatcherEntry} (h : c.EntryDeclared entry) :
    ∀ n ∈ entry.references, n ∈ c.matchers.keys := by
  cases entry with
  | within set forward reverse => simp [MatcherEntry.references]
  | all names => exact h
  | any names => exact h
  | deny => simp [MatcherEntry.references]

theorem mem_matchers_keys {name : String} :
    name ∈ c.matchers.keys ↔ ∃ entry, (name, entry) ∈ c.matchers.entries := by
  simp [Listing.keys]

theorem mem_keys_of_refers {a b : String} (h : c.Refers a b) : a ∈ c.matchers.keys := by
  obtain ⟨entry, hentry, -⟩ := h
  exact mem_matchers_keys.2 ⟨entry, hentry⟩

/-! ### One matcher -/

/-- The matcher of an entry, when `part` gives the matchers that the entry refers to. -/
def assemble (sets : NamedSets) (part : String → Except Problem Matcher) :
    MatcherEntry → Except Problem Matcher
  | .within set forward reverse =>
    match sets.find? set with
    | some (_, members) => .ok (.within members forward reverse)
    | none => .error (.unknownRelationSet set)
  | .all names => (names.mapM part).map .allOf
  | .any names => (names.mapM part).map .anyOf
  | .deny => .ok .deny

theorem matchersAt_eq_mapM (path names : List String) :
    matchersAt c sets path names = names.mapM (matcherAt c sets path) := by
  induction names with
  | nil => rw [matchersAt]; rfl
  | cons name rest ih => rw [matchersAt, ih, List.mapM_cons]

/-- A matcher is its entry put together from matchers on the path that ends with it. -/
theorem matcherAt_eq (path : List String) (name : String) :
    matcherAt c sets path name =
      if name ∈ path then .error (.schema (.matcherCycle (path ++ [name])))
      else match c.matchers.find? name with
        | none => .error (.unknownMatcher name)
        | some (_, entry) => assemble sets (matcherAt c sets (path ++ [name])) entry := by
  rw [matcherAt]
  split
  · rfl
  · split <;> rename_i hfind <;> rw [hfind]
    · rfl
    · simp only [assemble, matchersAt_eq_mapM]
    · simp only [assemble, matchersAt_eq_mapM]
    · rfl

theorem matcherAt_eq_ok {path : List String} {name : String} {m : Matcher} :
    matcherAt c sets path name = .ok m ↔ name ∉ path ∧ ∃ entry, (name, entry) ∈ c.matchers.entries ∧
      assemble sets (matcherAt c sets (path ++ [name])) entry = .ok m := by
  rw [matcherAt_eq]
  by_cases hpath : name ∈ path
  · simp [hpath]
  · rw [if_neg hpath]
    cases hfind : c.matchers.find? name with
    | none =>
      have hkey := Listing.find?_eq_none_iff.1 hfind
      simp only [reduceCtorEq, false_iff]
      rintro ⟨-, entry, hentry, -⟩
      exact hkey (mem_matchers_keys.2 ⟨entry, hentry⟩)
    | some e =>
      obtain ⟨hmem, rfl⟩ := Listing.find?_eq_some_iff.1 hfind
      constructor
      · intro h
        exact ⟨hpath, e.2, hmem, h⟩
      · rintro ⟨-, entry, hentry, h⟩
        rwa [Listing.eq_of_key_eq hmem hentry rfl]

theorem exists_assemble_iff {part : String → Except Problem Matcher} {entry : MatcherEntry}
    (hsets : ∀ k ∈ c.relationSets.keys, k ∈ sets.keys) (h : c.EntryDeclared entry) :
    (∃ m, assemble sets part entry = .ok m) ↔ ∀ n ∈ entry.references, ∃ m, part n = .ok m := by
  cases entry with
  | within set forward reverse =>
    cases hfind : sets.find? set with
    | none => exact absurd (hsets set h) (Listing.find?_eq_none_iff.1 hfind)
    | some e => simp [assemble, hfind, MatcherEntry.references]
  | all names | any names =>
    simp [assemble, MatcherEntry.references, Outcome.map_eq_ok, ← Outcome.exists_mapM_eq_ok]
  | deny => simp [assemble, MatcherEntry.references]

/-! ### Paths -/

/-- Induction along the references: what holds of a name on a path may be shown from what holds of
the names that its entry refers to, on the path that goes on through it. -/
theorem path_induction (c : Config) {P : List String → String → Prop}
    (step : ∀ path name, (name ∉ path → ∀ entry, (name, entry) ∈ c.matchers.entries →
      ∀ n ∈ entry.references, P (path ++ [name]) n) → P path name)
    (path : List String) (name : String) : P path name := by
  refine step path name fun hpath entry hentry n _ => ?_
  have hfind := Listing.find?_eq_some_iff.2 ⟨hentry, rfl⟩
  exact path_induction c step (path ++ [name]) n
termination_by c.offPath path
decreasing_by exact offPath_lt hfind hpath

theorem exists_matcherAt_step (hsets : ∀ k ∈ c.relationSets.keys, k ∈ sets.keys)
    (hdecl : c.ReferencesDeclared) {path : List String} {name : String} {entry : MatcherEntry}
    (hentry : (name, entry) ∈ c.matchers.entries) :
    (∃ m, matcherAt c sets path name = .ok m) ↔
      name ∉ path ∧ ∀ n ∈ entry.references, ∃ m, matcherAt c sets (path ++ [name]) n = .ok m := by
  rw [← exists_assemble_iff hsets (hdecl _ hentry)]
  simp only [matcherAt_eq_ok]
  constructor
  · rintro ⟨m, hpath, entry', hentry', hm⟩
    have he : (name, entry) = (name, entry') := Listing.eq_of_key_eq hentry hentry' rfl
    rw [Prod.mk.injEq] at he
    exact ⟨hpath, m, he.2 ▸ hm⟩
  · rintro ⟨hpath, m, hm⟩
    exact ⟨m, hpath, entry, hentry, hm⟩

/-- With all references declared a matcher can be built exactly when its references lead neither
back to the path nor to a cycle. -/
theorem exists_matcherAt_iff (hsets : ∀ k ∈ c.relationSets.keys, k ∈ sets.keys)
    (hdecl : c.ReferencesDeclared) (path : List String) (name : String)
    (hname : name ∈ c.matchers.keys) :
    (∃ m, matcherAt c sets path name = .ok m) ↔ ∀ b, Relation.ReflTransGen c.Refers name b →
      b ∉ path ∧ ¬Relation.TransGen c.Refers b b := by
  induction path, name using path_induction c with
  | step path name ih =>
    obtain ⟨entry, hentry⟩ := mem_matchers_keys.1 hname
    have hpart : ∀ n ∈ entry.references, n ∈ c.matchers.keys := (hdecl _ hentry).references
    rw [exists_matcherAt_step hsets hdecl hentry]
    constructor
    · rintro ⟨hpath, hparts⟩
      -- the parts avoid the path through this name, so nothing leads from them back to it
      have hbelow : ∀ b, Relation.TransGen c.Refers name b → b ∉ path ++ [name] ∧
          ¬Relation.TransGen c.Refers b b := by
        intro b hb
        obtain ⟨n, ⟨entry', hentry', hn⟩, hnb⟩ := Relation.TransGen.head'_iff.1 hb
        have he := congrArg Prod.snd (Listing.eq_of_key_eq hentry hentry' rfl)
        subst he
        exact (ih hpath entry hentry n hn (hpart n hn)).1 (hparts n hn) b hnb
      intro b hb
      rcases Relation.reflTransGen_iff_eq_or_transGen.1 hb with rfl | hb
      · exact ⟨hpath, fun hcycle => (hbelow _ hcycle).1 (by simp)⟩
      · exact ⟨fun hmem => (hbelow b hb).1 (List.mem_append_left _ hmem), (hbelow b hb).2⟩
    · intro hfree
      have hpath := (hfree _ .refl).1
      refine ⟨hpath, fun n hn => (ih hpath entry hentry n hn (hpart n hn)).2 fun b hb => ?_⟩
      have hstep : c.Refers name n := ⟨entry, hentry, hn⟩
      have hb' := Relation.ReflTransGen.head hstep hb
      refine ⟨fun hmem => ?_, (hfree b hb').2⟩
      rcases List.mem_append.1 hmem with hmem | hmem
      · exact (hfree b hb').1 hmem
      · -- a chain back to this name is a cycle
        rw [List.mem_singleton] at hmem
        exact (hfree _ .refl).2 (.head' hstep (hmem ▸ hb))

/-- With all references declared, every matcher can be built exactly when there is no cycle. -/
theorem forall_exists_matcherAt_iff (hsets : ∀ k ∈ c.relationSets.keys, k ∈ sets.keys)
    (hdecl : c.ReferencesDeclared) :
    (∀ name ∈ c.matchers.keys, ∃ m, matcherAt c sets [] name = .ok m) ↔ c.Acyclic := by
  constructor
  · intro h name hcycle
    obtain ⟨n, hn, -⟩ := Relation.TransGen.head'_iff.1 hcycle
    have hname := mem_keys_of_refers hn
    exact ((exists_matcherAt_iff hsets hdecl [] name hname).1 (h name hname) name .refl).2 hcycle
  · intro h name hname
    exact (exists_matcherAt_iff hsets hdecl [] name hname).2 fun b _ => ⟨List.not_mem_nil, h b⟩

end RelGraph.Config
