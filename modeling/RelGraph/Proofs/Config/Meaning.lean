import RelGraph.Proofs.Config.Ranges
import RelGraph.Proofs.Config.Resolvable
import RelGraph.Proofs.Lists
import RelGraph.Proofs.Matcher
import RelGraph.Proofs.Pipeline

/-! What a configuration means by itself, and that resolving it keeps the meaning. A named matcher
is read off the entries by following their references, and a stage off its tree; nothing is built
for this. The resolved matchers open what the configuration allows, and the resolved pipelines stop
where the configuration first excludes the node. -/

namespace RelGraph.Config

/-! ### The reading of a configuration -/

/-- The named matcher opens the direction for the relation, as the entries say. -/
inductive Allows (c : Config) (d : Direction) (r : Relation) : String → Prop
  | within {name set : String} {forward reverse : Bool} {ids : List String}
      (entry : (name, .within set forward reverse) ∈ c.matchers.entries)
      (flag : (match d with | .forward => forward | .reverse => reverse) = true)
      (listed : (set, ids) ∈ c.relationSets.entries) (member : r.id ∈ ids) : Allows c d r name
  | all {name : String} {names : List String} (entry : (name, .all names) ∈ c.matchers.entries)
      (nonempty : names ≠ []) (parts : ∀ n ∈ names, Allows c d r n) : Allows c d r name
  | any {name n : String} {names : List String} (entry : (name, .any names) ∈ c.matchers.entries)
      (mem : n ∈ names) (part : Allows c d r n) : Allows c d r name

open Classical in
/-- The policy that a named matcher is by the reading of the configuration. -/
noncomputable def policy (c : Config) (name : String) : Policy :=
  ⟨fun d r => decide (c.Allows d r name)⟩

/-- The stage includes the node, as its entry says. -/
def Includes (c : Config) (g : Graph) (id : String) : StageEntry → Prop
  | .nodeKinds kinds => ∃ n, g.node? id = some n ∧ n.kind ∈ kinds
  | .namePattern pattern => ∃ n p, g.node? id = some n ∧ Pattern.compile? pattern = some p ∧
      p.matchesName n.name = true
  | .members ids => id ∈ ids
  | .degree matcher mode range => range.Admits (g.degree (c.policy matcher) mode id)
  | .not stage => ¬Includes c g id stage
  | .all stages => ∀ s ∈ stages, Includes c g id s
  | .any stages => ∃ s, ∃ _ : s ∈ stages, Includes c g id s

variable {c : Config} {catalog : Catalog} {sets : NamedSets} {matchers : NamedMatchers}

/-! ### Matchers -/

section Matchers

variable {d : Direction} {r : Relation} {name : String}

/-- An entry opens the direction, when `part` says so of the names that it refers to. -/
def EntryAllows (c : Config) (d : Direction) (r : Relation) (part : String → Prop) :
    MatcherEntry → Prop
  | .within set forward reverse =>
    (match d with | .forward => forward | .reverse => reverse) = true ∧
      ∃ ids, (set, ids) ∈ c.relationSets.entries ∧ r.id ∈ ids
  | .all names => names ≠ [] ∧ ∀ n ∈ names, part n
  | .any names => ∃ n ∈ names, part n
  | .deny => False

theorem allows_iff {entry : MatcherEntry} (h : (name, entry) ∈ c.matchers.entries) :
    c.Allows d r name ↔ c.EntryAllows d r (c.Allows d r) entry := by
  have hentry {entry' : MatcherEntry} (h' : (name, entry') ∈ c.matchers.entries) :
      entry' = entry := congrArg Prod.snd (Listing.eq_of_key_eq h' h rfl)
  constructor
  · intro hallows
    cases hallows with
    | within h' flag listed member =>
      obtain rfl := hentry h'
      exact ⟨flag, _, listed, member⟩
    | all h' nonempty parts =>
      obtain rfl := hentry h'
      exact ⟨nonempty, parts⟩
    | any h' mem part =>
      obtain rfl := hentry h'
      exact ⟨_, mem, part⟩
  · cases entry with
    | within set forward reverse =>
      rintro ⟨flag, ids, listed, member⟩
      exact .within h flag listed member
    | all names =>
      rintro ⟨nonempty, parts⟩
      exact .all h nonempty parts
    | any names =>
      rintro ⟨n, mem, part⟩
      exact .any h mem part
    | deny => exact False.elim

/-- A built set has the relations that are listed under its name. -/
theorem contains_of_buildSets (hsets : c.buildSets catalog = .ok sets) {e : String × RelationSet}
    (he : e ∈ sets.entries) :
    e.2.contains r = true ↔ ∃ ids, (e.1, ids) ∈ c.relationSets.entries ∧ r.id ∈ ids := by
  obtain ⟨⟨name, ids⟩, hlisted, hbuild⟩ := (buildSets_eq_ok.1 hsets).exists_mem_left he
  obtain ⟨l, hl, rfl⟩ := buildSet_eq_ok.1 hbuild
  rw [RelationSet.contains_ofList_iff, (Catalog.resolveAll_eq_ok.1 hl).1]
  constructor
  · intro hid
    exact ⟨ids, hlisted, hid⟩
  · rintro ⟨ids', hlisted', hid⟩
    have hids := congrArg Prod.snd (Listing.eq_of_key_eq hlisted' hlisted rfl)
    exact hids ▸ hid

/-- A matcher put together from parts opens what its entry allows, when every part opens what the
name that it was built from allows. -/
theorem opens_assemble_iff (hsets : c.buildSets catalog = .ok sets)
    {part : String → Except Problem Matcher} {allows : String → Prop} {entry : MatcherEntry}
    (hpart : ∀ n ∈ entry.references, ∀ m, part n = .ok m → (allows n ↔ m.opens d r = true))
    {m : Matcher} (h : assemble sets part entry = .ok m) :
    m.opens d r = true ↔ c.EntryAllows d r allows entry := by
  cases entry with
  | within set forward reverse =>
    rw [assemble] at h
    split at h
    · next k members hfind =>
      obtain ⟨hmem, rfl⟩ := Listing.find?_eq_some_iff.1 hfind
      obtain rfl := Except.ok.inj h
      rw [Matcher.opens_within, contains_of_buildSets hsets hmem]
      exact Iff.rfl
    · simp at h
  | all names =>
    obtain ⟨parts, hbuilt, rfl⟩ := Outcome.map_eq_ok.1 h
    have hcongr := (Outcome.mapM_eq_ok.1 hbuilt).of_mem hpart
    rw [Matcher.opens_allOf, EntryAllows, hcongr.ne_nil_iff, hcongr.forall_mem_iff]
  | any names =>
    obtain ⟨parts, hbuilt, rfl⟩ := Outcome.map_eq_ok.1 h
    have hcongr := (Outcome.mapM_eq_ok.1 hbuilt).of_mem hpart
    rw [Matcher.opens_anyOf, EntryAllows, hcongr.exists_mem_iff]
  | deny =>
    obtain rfl := Except.ok.inj h
    simp [EntryAllows]

/-- A matcher opens what the configuration allows, on whatever path it was built. -/
theorem opens_matcherAt_iff (hsets : c.buildSets catalog = .ok sets) {path : List String}
    {m : Matcher} (h : matcherAt c sets path name = .ok m) :
    m.opens d r = true ↔ c.Allows d r name := by
  induction path, name using path_induction c generalizing m with
  | step path name ih =>
    obtain ⟨hpath, entry, hentry, hm⟩ := matcherAt_eq_ok.1 h
    rw [allows_iff hentry]
    exact opens_assemble_iff hsets (fun n hn m hm => (ih hpath entry hentry n hn hm).symm) hm

theorem policy_of_buildMatchers (hsets : c.buildSets catalog = .ok sets)
    (hmatchers : c.buildMatchers sets = .ok matchers) {e : String × Matcher}
    (he : e ∈ matchers.entries) : e.2.policy = c.policy e.1 := by
  obtain ⟨name, -, hbuild⟩ := (buildMatchers_eq_ok.1 hmatchers).exists_mem_left he
  obtain ⟨m, hm, rfl⟩ := buildMatcher_eq_ok.1 hbuild
  rw [Matcher.policy, policy, Policy.mk.injEq]
  funext d r
  rw [Bool.eq_iff_iff, opens_matcherAt_iff hsets hm]
  simp

end Matchers

/-! ### Stages -/

section Stages

variable {g : Graph} {id : String}

theorem includes_any_iff {stages : List StageEntry} :
    c.Includes g id (.any stages) ↔ ∃ s ∈ stages, c.Includes g id s := by
  rw [Includes]
  simp

/-- A stage includes the nodes that its entry includes, when the matchers are those that the
configuration names. -/
theorem includes_buildStage_iff (hpolicy : ∀ e ∈ matchers.entries, e.2.policy = c.policy e.1)
    {entry : StageEntry} {s : Stage} (h : buildStage matchers entry = .ok s) :
    c.Includes g id entry ↔ s.includes g id = true := by
  induction entry generalizing s with
  | nodeKinds kinds =>
    obtain rfl := Except.ok.inj h
    rw [Includes, Stage.ofKinds, Stage.includes, Option.any_eq_true]
    simp only [NameSet.ofNames, Ascending.contains_iff, Ascending.mem_keys_ofList, List.map_id]
  | namePattern pattern =>
    rw [buildStage] at h
    split at h
    · next p hp =>
      obtain rfl := Except.ok.inj h
      rw [Includes, Stage.includes, Option.any_eq_true]
      simp [hp]
    · simp at h
  | members ids =>
    obtain rfl := Except.ok.inj h
    rw [Includes, Stage.ofMembers, Stage.includes, NameSet.ofNames, Ascending.contains_iff,
      Ascending.mem_keys_ofList, List.map_id]
  | degree matcher mode range =>
    rw [buildStage] at h
    split at h
    · next name m hfind =>
      obtain ⟨hmem, rfl⟩ := Listing.find?_eq_some_iff.1 hfind
      obtain ⟨range', hrange, rfl⟩ := Outcome.map_eq_ok.1 h
      rw [Includes, Stage.degree, Stage.includes, Metric.measure, hpolicy _ hmem,
        RangeKeys.includes_of_toRange hrange]
    · simp at h
  | not stage ih =>
    obtain ⟨inner, hinner, rfl⟩ := Outcome.map_eq_ok.1 h
    rw [Includes, Stage.includes, ih hinner]
    simp
  | all stages ih =>
    obtain ⟨built, hbuilt, rfl⟩ := Outcome.map_eq_ok.1 h
    rw [each_buildStage, Outcome.mapM_eq_ok] at hbuilt
    have hcongr := hbuilt.of_mem fun s hs _ hs' => ih s hs hs'
    rw [Includes, Stage.includes_allOf, hcongr.forall_mem_iff]
  | any stages ih =>
    obtain ⟨built, hbuilt, rfl⟩ := Outcome.map_eq_ok.1 h
    rw [each_buildStage, Outcome.mapM_eq_ok] at hbuilt
    have hcongr := hbuilt.of_mem fun s hs _ hs' => ih s hs hs'
    rw [includes_any_iff, Stage.includes_anyOf, hcongr.exists_mem_iff]

/-- A pipeline that is built stops where the reading of its filter first excludes the node. -/
theorem evaluate_buildPipeline (hpolicy : ∀ e ∈ matchers.entries, e.2.policy = c.policy e.1)
    {f : FilterEntry} {p : Pipeline} (h : buildPipeline matchers f = .ok p) :
    (∀ i, p.evaluate g id = ⟨false, i + 1, some i⟩ ↔
      FirstRejected (c.Includes g id) f.stages i) ∧
    (p.evaluate g id = ⟨true, f.stages.length, none⟩ ↔ ∀ s ∈ f.stages, c.Includes g id s) := by
  obtain ⟨stages, hstages, rfl⟩ := buildPipeline_eq_ok.1 h
  have hbuilt := Outcome.mapM_eq_ok.1 hstages
  have hcongr : List.Forall₂ (fun entry (s : Stage) =>
      c.Includes g id entry ↔ s.includes g id = true) f.stages stages :=
    hbuilt.imp fun _ _ hs => includes_buildStage_iff hpolicy hs
  constructor
  · intro i
    rw [Pipeline.evaluate_eq_rejected_iff, FirstRejected.congr hcongr]
  · rw [hbuilt.length_eq, Pipeline.evaluate_eq_included_iff, hcongr.forall_mem_iff]

end Stages

/-! ### The whole -/

/-- Resolving keeps the meaning of a configuration. Every configured matcher opens what the
configuration allows under its name, and every configured pipeline reports the first stage that
excludes the node by the reading of the configuration, or includes it when there is none. -/
theorem meaning_of_resolve {res : Resolved} (h : c.resolve = .ok res) :
    (∀ name ∈ c.matchers.keys, ∃ m, res.matcher name = .ok m ∧
      ∀ d r, m.opens d r = true ↔ c.Allows d r name) ∧
    ∀ f ∈ c.filters, ∃ p, res.pipeline? f.name = some p ∧ ∀ g id,
      (∀ i, p.evaluate g id = ⟨false, i + 1, some i⟩ ↔
        FirstRejected (c.Includes g id) f.stages i) ∧
      (p.evaluate g id = ⟨true, f.stages.length, none⟩ ↔
        ∀ s ∈ f.stages, c.Includes g id s) := by
  obtain ⟨hvalid, -, hsets, hmatchers, -, hpipelines, -, -⟩ := resolve_eq_ok.1 h
  have hpolicy : ∀ e ∈ res.matchers.entries, e.2.policy = c.policy e.1 :=
    fun e he => policy_of_buildMatchers hsets hmatchers he
  refine ⟨fun name hname => ?_, fun f hf => ?_⟩
  · obtain ⟨e, he, hbuild⟩ := (buildMatchers_eq_ok.1 hmatchers).exists_mem hname
    obtain ⟨m, hm, rfl⟩ := buildMatcher_eq_ok.1 hbuild
    have hfind : res.matchers.find? name = some (name, m) :=
      Listing.find?_eq_some_iff.2 ⟨he, rfl⟩
    exact ⟨m, by rw [Resolved.matcher, hfind], fun d r => opens_matcherAt_iff hsets hm⟩
  · obtain ⟨-, -, -, -, ⟨-, hnames⟩, -⟩ := validate_eq_ok.1 hvalid
    obtain ⟨p, hp, hbuild⟩ := ((buildPipelines_eq_ok hnames).1 hpipelines).exists_mem hf
    have hname : p.name = f.name := by
      obtain ⟨stages, -, rfl⟩ := buildPipeline_eq_ok.1 hbuild
      rfl
    exact ⟨p, Listing.find?_eq_some_iff.2 ⟨hp, hname⟩,
      fun g id => evaluate_buildPipeline hpolicy hbuild⟩

theorem meaning_of_resolve_sample :
    ∃ res, sample.resolve = .ok res ∧
      (∃ m, res.matcher "near" = .ok m ∧ ∀ d r, m.opens d r = true ↔ sample.Allows d r "near") ∧
      ∀ f ∈ sample.filters, ∃ p, res.pipeline? f.name = some p ∧ ∀ g id,
        (∀ i, p.evaluate g id = ⟨false, i + 1, some i⟩ ↔
          FirstRejected (sample.Includes g id) f.stages i) ∧
        (p.evaluate g id = ⟨true, f.stages.length, none⟩ ↔
          ∀ s ∈ f.stages, sample.Includes g id s) := by
  obtain ⟨res, hres⟩ := exists_resolve_sample
  obtain ⟨hmatchers, hfilters⟩ := meaning_of_resolve hres
  exact ⟨res, hres, hmatchers "near" (by decide), hfilters⟩

end RelGraph.Config
