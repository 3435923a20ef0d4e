import Mathlib.Data.List.Chain
import RelGraph.Proofs.Config.References
import RelGraph.Proofs.Config.Resolvable

/-! Cycles among the configured matchers, and the search that finds them. The search follows the
references of a matcher, and of those that it refers to, on one path that all of its calls share: a
call appends its name before it goes on and takes it off again when it is done. It always ends,
because no name is followed twice on one path, and a call that succeeds leaves the path as it found
it, so that the next one starts from its own chain of references. When every reference is declared
it fails for a cycle and for nothing else, and the path is then the way into the cycle and once
around it. -/

namespace RelGraph.Config

variable {c : Config} {sets : NamedSets} {α β : Type}

/-! ### Computations on a shared path -/

/-- A computation on a path. One that fails leaves the path as it stands, and one that does not end
has no result. -/
abbrev OnPath := ExceptT Problem (StateT (List String) Option)

namespace OnPath

/-- The outcome of the computation when it starts on the path, and the path that it leaves. -/
def startOn (x : OnPath α) (path : List String) : Option (Except Problem α × List String) :=
  x.run.run path

theorem startOn_bind (x : OnPath α) (f : α → OnPath β) (path : List String) :
    (x >>= f).startOn path = (x.startOn path).bind fun r =>
      match r with
      | (.ok a, left) => (f a).startOn left
      | (.error problem, left) => some (.error problem, left) := by
  show Option.bind (x.startOn path) _ = _
  congr 1
  funext ⟨outcome, left⟩
  cases outcome <;> rfl

/-- Started on the path, the computation ends with this outcome, and with the same path if it is a
success. -/
def EndsWith (x : OnPath α) (path : List String) (outcome : Except Problem α) : Prop :=
  ∃ left, x.startOn path = some (outcome, left) ∧ ∀ a, outcome = .ok a → left = path

variable {path : List String}

theorem endsWith_pure (path : List String) (a : α) : EndsWith (pure a) path (.ok a) :=
  ⟨path, rfl, fun _ _ => rfl⟩

theorem endsWith_throw (problem : Problem) :
    EndsWith (throw problem : OnPath α) path (.error problem) :=
  ⟨path, rfl, fun _ _ => rfl⟩

theorem EndsWith.bind {x : OnPath α} {f : α → OnPath β} {outcome : Except Problem α}
    {g : α → Except Problem β} (hx : EndsWith x path outcome)
    (hf : ∀ a, EndsWith (f a) path (g a)) : EndsWith (x >>= f) path (outcome >>= g) := by
  obtain ⟨left, hrun, hleft⟩ := hx
  cases outcome with
  | ok a =>
    obtain rfl : left = path := hleft a rfl
    obtain ⟨left', hrun', hleft'⟩ := hf a
    refine ⟨left', ?_, hleft'⟩
    rw [startOn_bind, hrun]
    exact hrun'
  | error problem =>
    refine ⟨left, ?_, fun b hb => ?_⟩
    · rw [startOn_bind, hrun]
      rfl
    · cases hb

theorem EndsWith.map {x : OnPath α} {outcome : Except Problem α} (hx : EndsWith x path outcome)
    (f : α → β) : EndsWith (f <$> x) path (outcome.map f) := by
  have hmap : f <$> x = x >>= fun a => pure (f a) := (bind_pure_comp f x).symm
  have hbind := hx.bind fun a => endsWith_pure path (f a)
  rw [hmap]
  cases outcome with
  | ok a => exact hbind
  | error problem => exact hbind

theorem endsWith_mapM {f : α → OnPath β} {g : α → Except Problem β} {l : List α}
    (h : ∀ a ∈ l, EndsWith (f a) path (g a)) : EndsWith (l.mapM f) path (l.mapM g) := by
  induction l with
  | nil => exact endsWith_pure path []
  | cons a rest ih =>
    rw [List.forall_mem_cons] at h
    rw [List.mapM_cons, List.mapM_cons]
    exact h.1.bind fun b => (ih h.2).bind fun bs => endsWith_pure path (b :: bs)

end OnPath

/-! ### The search -/

/-- Searches for the matcher of a name on the path that leads to it. -/
def search (c : Config) (sets : NamedSets) (name : String) : OnPath Matcher := do
  let path ← get
  if name ∈ path then
    set (path ++ [name])
    throw (.schema (.matcherCycle (path ++ [name])))
  else
    match c.matchers.find? name with
    | none => throw (.unknownMatcher name)
    | some (_, entry) =>
      set (path ++ [name])
      let m ← (match entry with
        | .within set forward reverse =>
          match sets.find? set with
          | some (_, members) => pure (.within members forward reverse)
          | none => throw (.unknownRelationSet set)
        | .all names => .allOf <$> names.mapM (c |>.search sets)
        | .any names => .anyOf <$> names.mapM (c |>.search sets)
        | .deny => pure .deny)
      modify List.dropLast
      return m
partial_fixpoint

open OnPath

/-- What a call does once its name is on the path: it puts its entry together from the matchers that
the entry refers to. -/
def assembleOn (sets : NamedSets) (part : String → OnPath Matcher) :
    MatcherEntry → OnPath Matcher
  | .within set forward reverse =>
    match sets.find? set with
    | some (_, members) => pure (.within members forward reverse)
    | none => throw (.unknownRelationSet set)
  | .all names => .allOf <$> names.mapM part
  | .any names => .anyOf <$> names.mapM part
  | .deny => pure .deny

/-- The steps of a search: it checks the path, appends the name, and takes the last name off again
unless it fails. -/
theorem startOn_search (c : Config) (sets : NamedSets) (path : List String) (name : String) :
    (c.search sets name).startOn path =
      if name ∈ path then some (.error (.schema (.matcherCycle (path ++ [name]))), path ++ [name])
      else match c.matchers.find? name with
        | none => some (.error (.unknownMatcher name), path)
        | some (_, entry) =>
          ((assembleOn sets (c.search sets) entry).startOn (path ++ [name])).map fun r =>
            match r with
            | (.ok m, left) => (.ok m, left.dropLast)
            | (.error problem, left) => (.error problem, left) := by
  rw [search]
  show startOn (ite _ _ _) path = _
  split
  · rfl
  · cases c.matchers.find? name with
    | none => rfl
    | some e =>
      show startOn (assembleOn sets (c.search sets) e.2 >>= _) (path ++ [name]) = Option.map _ _
      rw [startOn_bind, Option.map_eq_bind]
      congr 1
      funext ⟨outcome, left⟩
      cases outcome <;> rfl

theorem endsWith_assembleOn (sets : NamedSets) {path : List String} {part : String → OnPath Matcher}
    {part' : String → Except Problem Matcher} {entry : MatcherEntry}
    (h : ∀ n ∈ entry.references, EndsWith (part n) path (part' n)) :
    EndsWith (assembleOn sets part entry) path (assemble sets part' entry) := by
  cases entry with
  | within set forward reverse =>
    cases hfind : sets.find? set with
    | none =>
      simp only [assembleOn, assemble, hfind]
      exact endsWith_throw _
    | some e =>
      simp only [assembleOn, assemble, hfind]
      exact endsWith_pure path _
  | all names => exact (endsWith_mapM h).map _
  | any names => exact (endsWith_mapM h).map _
  | deny => exact endsWith_pure path _

/-- Whatever the configuration, a search ends on every path, its outcome is the matcher that is
built there, and a success leaves the path as it was. -/
theorem endsWith_search (c : Config) (sets : NamedSets) (path : List String) (name : String) :
    EndsWith (c.search sets name) path (matcherAt c sets path name) := by
  induction path, name using path_induction c with
  | step path name ih =>
    unfold EndsWith
    rw [startOn_search, matcherAt_eq]
    by_cases hpath : name ∈ path
    · rw [if_pos hpath, if_pos hpath]
      exact ⟨_, rfl, fun _ h => nomatch h⟩
    · rw [if_neg hpath, if_neg hpath]
      cases hfind : c.matchers.find? name with
      | none => exact ⟨_, rfl, fun _ h => nomatch h⟩
      | some e =>
        obtain ⟨hentry, rfl⟩ := Listing.find?_eq_some_iff.1 hfind
        obtain ⟨left, hrun, hleft⟩ := endsWith_assembleOn sets (ih hpath e.2 hentry)
        dsimp only
        rw [hrun]
        cases houtcome : assemble sets (matcherAt c sets (path ++ [e.1])) e.2 with
        | ok m =>
          -- the calls below have left the path as it is here, so its last name is this one
          obtain rfl := hleft m houtcome
          exact ⟨_, rfl, fun _ _ => List.dropLast_concat⟩
        | error problem => exact ⟨left, rfl, fun _ h => nomatch h⟩

/-! ### Ways into a cycle -/

/-- A way from the name into a cycle and once around it: each name refers to the next one, no name
but the last is on the way twice, and the last is on it before. -/
structure EntersCycle (c : Config) (name : String) (way : List String) (last : String) : Prop where
  head_eq : (way ++ [last]).head? = some name
  linked : (way ++ [last]).IsChain c.Refers
  nodup : way.Nodup
  closes : last ∈ way

/-- With what it refers to declared, an entry is only refused because of one of its references. -/
theorem exists_of_assemble_eq_error {part : String → Except Problem Matcher} {entry : MatcherEntry}
    {problem : Problem} (hsets : ∀ k ∈ c.relationSets.keys, k ∈ sets.keys)
    (hdecl : c.EntryDeclared entry) (h : assemble sets part entry = .error problem) :
    ∃ n ∈ entry.references, part n = .error problem := by
  cases entry with
  | within set forward reverse =>
    cases hfind : sets.find? set with
    | none => exact absurd (hsets set hdecl) (Listing.find?_eq_none_iff.1 hfind)
    | some e => simp [assemble, hfind] at h
  | all names => exact Outcome.exists_of_mapM_eq_error (Outcome.map_eq_error.1 h)
  | any names => exact Outcome.exists_of_mapM_eq_error (Outcome.map_eq_error.1 h)
  | deny => cases h

/-- With all references declared a matcher is only refused for a cycle, and the problem shows the
path and how it goes on into the cycle. -/
theorem exists_way_of_matcherAt_eq_error (hsets : ∀ k ∈ c.relationSets.keys, k ∈ sets.keys)
    (hdecl : c.ReferencesDeclared) {path : List String} {name : String} {problem : Problem}
    (hname : name ∈ c.matchers.keys) (hnodup : path.Nodup)
    (h : matcherAt c sets path name = .error problem) :
    ∃ way last, problem = .schema (.matcherCycle (path ++ (way ++ [last]))) ∧
      (way ++ [last]).head? = some name ∧ (way ++ [last]).IsChain c.Refers ∧
      (path ++ way).Nodup ∧ last ∈ path ++ way := by
  induction path, name using path_induction c with
  | step path name ih =>
    rw [matcherAt_eq] at h
    by_cases hpath : name ∈ path
    · rw [if_pos hpath] at h
      cases h
      exact ⟨[], name, rfl, rfl, List.isChain_singleton name, by simpa using hnodup,
        by simpa using hpath⟩
    · rw [if_neg hpath] at h
      obtain ⟨entry, hentry⟩ := mem_matchers_keys.1 hname
      rw [Listing.find?_eq_some_iff.2 ⟨hentry, rfl⟩] at h
      obtain ⟨n, hn, hproblem⟩ := exists_of_assemble_eq_error hsets (hdecl _ hentry) h
      have hconcat : (path ++ [name]).Nodup := by
        rw [List.nodup_append]
        refine ⟨hnodup, List.nodup_singleton name, ?_⟩
        rintro a ha b hb rfl
        exact hpath (List.mem_singleton.1 hb ▸ ha)
      obtain ⟨way, last, hchain, hhead, hlinked, hdistinct, hcloses⟩ :=
        ih hpath entry hentry n hn ((hdecl _ hentry).references n hn) hconcat hproblem
      have hrefers : c.Refers name n := ⟨entry, hentry, hn⟩
      refine ⟨name :: way, last, by simpa using hchain, rfl, ?_, by simpa using hdistinct,
        by simpa using hcloses⟩
      rw [List.cons_append, List.isChain_cons, hhead]
      refine ⟨?_, hlinked⟩
      rintro b hb
      obtain rfl := Option.some.inj hb
      exact hrefers

/-! ### The whole -/

/-- With all references declared, the search for a configured matcher that starts on the empty path
ends with the matcher that is built for the name. It fails exactly when the references of the name
lead to a cycle, its problem then shows a way into the cycle, and a success leaves the path empty.
Every call on the way ends likewise, and leaves the path as it was unless it fails. -/
theorem search_fails_iff_cycle (c : Config) (sets : NamedSets)
    (hsets : ∀ k ∈ c.relationSets.keys, k ∈ sets.keys) (hdecl : c.ReferencesDeclared)
    (name : String) (hname : name ∈ c.matchers.keys) :
    (∃ outcome left, (c.search sets name).startOn [] = some (outcome, left) ∧
      outcome = matcherAt c sets [] name ∧
      ((∃ problem, outcome = .error problem) ↔
        ∃ b, Relation.ReflTransGen c.Refers name b ∧ Relation.TransGen c.Refers b b) ∧
      (∀ problem, outcome = .error problem → ∃ way last,
        problem = .schema (.matcherCycle (way ++ [last])) ∧ c.EntersCycle name way last) ∧
      ∀ m, outcome = .ok m → left = []) ∧
    ∀ path n, EndsWith (c.search sets n) path (matcherAt c sets path n) := by
  refine ⟨?_, endsWith_search c sets⟩
  obtain ⟨left, hrun, hleft⟩ := endsWith_search c sets [] name
  refine ⟨matcherAt c sets [] name, left, hrun, rfl, ?_, fun problem hproblem => ?_, hleft⟩
  · have hbuilt := exists_matcherAt_iff hsets hdecl [] name hname
    have hfails : (∃ problem, matcherAt c sets [] name = .error problem) ↔
        ¬∃ m, matcherAt c sets [] name = .ok m := by
      cases matcherAt c sets [] name <;> simp
    rw [hfails, hbuilt]
    simp
  · obtain ⟨way, last, hchain, hhead, hlinked, hnodup, hcloses⟩ :=
      exists_way_of_matcherAt_eq_error hsets hdecl hname List.nodup_nil hproblem
    exact ⟨way, last, hchain, hhead, hlinked, hnodup, hcloses⟩

/-- Two matchers that share a part, and two that refer to each other. -/
def cyclicSample : Config where
  settings := .default
  relations := [⟨"calls", "calls", "called by"⟩]
  relationSets := .ofList [("code", ["calls"])]
  matchers := .ofList [("callers", .within "code" false true), ("left", .all ["callers"]),
    ("right", .any ["callers"]), ("both", .all ["left", "right"]),
    ("round", .any ["both", "about"]), ("about", .all ["callers", "round"])]
  models := []
  filters := []
  documents := []

def cyclicSampleSets : NamedSets := .ofList [("code", .ofList "code" [])]

theorem search_fails_iff_cycle_sample :
    (∀ k ∈ cyclicSample.relationSets.keys, k ∈ cyclicSampleSets.keys) ∧
    cyclicSample.ReferencesDeclared ∧ "round" ∈ cyclicSample.matchers.keys ∧
    ∃ problem left, (cyclicSample.search cyclicSampleSets "round").startOn [] =
        some (.error problem, left) ∧
      ∃ way last, problem = .schema (.matcherCycle (way ++ [last])) ∧
        cyclicSample.EntersCycle "round" way last := by
  have hsets : ∀ k ∈ cyclicSample.relationSets.keys, k ∈ cyclicSampleSets.keys := by decide
  have hdecl : cyclicSample.ReferencesDeclared := referencesDeclared_of_validate rfl
  have hname : "round" ∈ cyclicSample.matchers.keys := by decide
  have hthere : cyclicSample.Refers "round" "about" :=
    ⟨.any ["both", "about"], by decide, by decide⟩
  have hback : cyclicSample.Refers "about" "round" :=
    ⟨.all ["callers", "round"], by decide, by decide⟩
  obtain ⟨⟨outcome, left, hrun, -, hfails, hway, -⟩, -⟩ :=
    search_fails_iff_cycle cyclicSample cyclicSampleSets hsets hdecl "round" hname
  obtain ⟨problem, rfl⟩ := hfails.2 ⟨"round", .refl, .tail (.single hthere) hback⟩
  exact ⟨hsets, hdecl, hname, problem, left, hrun, hway problem rfl⟩

end RelGraph.Config
