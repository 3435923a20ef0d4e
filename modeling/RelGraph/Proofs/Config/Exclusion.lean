import RelGraph.Proofs.Config.Resolvable
import RelGraph.Proofs.Lists
import RelGraph.Proofs.Pipeline

/-! Filters that exclude every node. The form of a stage entry tells that nothing can pass: it lists
no kinds or no members, all its alternatives are of this form, or one of the stages that have to
agree is. This is read off the configuration before anything is built, and it holds of the pipeline
that is built, so a configuration warns only of filters that keep nothing. -/

namespace RelGraph

/-- Nothing is kept of any graph, and no identifier passes, be it that of a node or not. -/
structure Pipeline.ExcludesAll (p : Pipeline) : Prop where
  filter_eq : ∀ g, p.filter g = []
  filterInParallel_eq : ∀ g, p.filterInParallel g = []
  rejects : ∀ g id, ∃ i, p.evaluate g id = ⟨false, i + 1, some i⟩

/-- One stage that includes nothing is enough. -/
theorem Pipeline.excludesAll_of_mem {p : Pipeline} {s : Stage} (hs : s ∈ p.stages)
    (h : ∀ g id, ¬s.includes g id = true) : p.ExcludesAll := by
  have hfilter : ∀ g, p.filter g = [] := fun g =>
    List.filter_eq_nil_iff.2 fun id _ hid => h g id (includes_iff.1 hid s hs)
  refine ⟨hfilter, fun g => ?_, fun g id => ?_⟩
  · rw [filterInParallel_eq_filter, hfilter]
  · rcases p.evaluate_cases g id with hrejected | hincluded
    · exact hrejected
    · exact absurd (evaluate_eq_included_iff.1 hincluded s hs) (h g id)

namespace Config

variable {c : Config} {matchers : NamedMatchers} {res : Resolved} {name : String}

/-! ### Stages -/

theorem every_eq_all (stages : List StageEntry) :
    excludesEverything.every stages = stages.all excludesEverything := by
  induction stages with
  | nil => rfl
  | cons s rest ih => rw [excludesEverything.every, ih, List.all_cons]

theorem some_eq_any (stages : List StageEntry) :
    excludesEverything.some stages = stages.any excludesEverything := by
  induction stages with
  | nil => rfl
  | cons s rest ih => rw [excludesEverything.some, ih, List.any_cons]

theorem excludesEverything_all {stages : List StageEntry} :
    excludesEverything (.all stages) = true ↔ ∃ s ∈ stages, excludesEverything s = true := by
  rw [excludesEverything, some_eq_any, List.any_eq_true]

theorem excludesEverything_any {stages : List StageEntry} :
    excludesEverything (.any stages) = true ↔ ∀ s ∈ stages, excludesEverything s = true := by
  rw [excludesEverything, every_eq_all, List.all_eq_true]

theorem not_includes_ofKinds_nil (g : Graph) (id : String) :
    ¬(Stage.ofKinds []).includes g id = true := by
  rw [Stage.ofKinds, Stage.includes, Option.any_eq_true]
  rintro ⟨n, -, hn⟩
  rw [NameSet.contains_iff, NameSet.mem_ofNames] at hn
  cases hn

theorem not_includes_ofMembers_nil (g : Graph) (id : String) :
    ¬(Stage.ofMembers []).includes g id = true := by
  rw [Stage.ofMembers, Stage.includes, NameSet.contains_iff, NameSet.mem_ofNames]
  exact List.not_mem_nil

/-- What the form of an entry tells holds of the stage that is built from it. -/
theorem not_includes_of_excludesEverything {entry : StageEntry} {s : Stage}
    (hbuild : buildStage matchers entry = .ok s) (h : excludesEverything entry = true)
    (g : Graph) (id : String) : ¬s.includes g id = true := by
  induction entry generalizing s with
  | nodeKinds kinds =>
    obtain rfl : kinds = [] := List.isEmpty_iff.1 h
    obtain rfl := Except.ok.inj hbuild
    exact not_includes_ofKinds_nil g id
  | members ids =>
    obtain rfl : ids = [] := List.isEmpty_iff.1 h
    obtain rfl := Except.ok.inj hbuild
    exact not_includes_ofMembers_nil g id
  | namePattern _ | degree _ _ _ | not _ _ => simp [excludesEverything] at h
  | all stages ih =>
    obtain ⟨built, hbuilt, rfl⟩ := Outcome.map_eq_ok.1 hbuild
    rw [each_buildStage, Outcome.mapM_eq_ok] at hbuilt
    -- all stages have to agree, so the one that excludes everything speaks for them
    obtain ⟨entry, hentry, hexcludes⟩ := excludesEverything_all.1 h
    obtain ⟨s, hs, hsbuild⟩ := hbuilt.exists_mem hentry
    exact fun hincludes => ih entry hentry hsbuild hexcludes (Stage.includes_allOf.1 hincludes s hs)
  | any stages ih =>
    obtain ⟨built, hbuilt, rfl⟩ := Outcome.map_eq_ok.1 hbuild
    rw [each_buildStage, Outcome.mapM_eq_ok] at hbuilt
    -- the alternative that includes the node would be built from one that excludes everything
    intro hincludes
    obtain ⟨s, hs, hincludes⟩ := Stage.includes_anyOf.1 hincludes
    obtain ⟨entry, hentry, hsbuild⟩ := hbuilt.exists_mem_left hs
    exact ih entry hentry hsbuild (excludesEverything_any.1 h entry hentry) hincludes

/-! ### Filters -/

theorem excludesAll_of_buildPipeline {f : FilterEntry} {p : Pipeline}
    (hstage : ∃ s ∈ f.stages, excludesEverything s = true)
    (hbuild : buildPipeline matchers f = .ok p) : p.ExcludesAll := by
  obtain ⟨stages, hstages, rfl⟩ := buildPipeline_eq_ok.1 hbuild
  obtain ⟨entry, hentry, hexcludes⟩ := hstage
  obtain ⟨s, hs, hsbuild⟩ := (Outcome.mapM_eq_ok.1 hstages).exists_mem hentry
  exact Pipeline.excludesAll_of_mem hs (not_includes_of_excludesEverything hsbuild hexcludes)

/-! ### Warnings -/

theorem resolveModels_of_resolve (h : c.resolve = .ok res) : c.resolveModels = .ok res.models := by
  obtain ⟨hvalid, hcatalog, hsets, hmatchers, hmodels, -⟩ := resolve_eq_ok.1 h
  simp only [resolveModels, resolveSets, Outcome.bind_eq_ok, Outcome.pure_eq_ok]
  exact ⟨_, ⟨(), hvalid, _, hcatalog, _, hsets, rfl⟩, _, hmatchers, hmodels⟩

/-- A configuration that resolves warns of the filters with a stage that excludes everything by its
form. -/
theorem excludingFilter_mem_warnings_iff (h : c.resolve = .ok res) :
    .excludingFilter name ∈ c.warnings ↔
      ∃ f ∈ c.filters, f.name = name ∧ ∃ s ∈ f.stages, excludesEverything s = true := by
  have hsets : .excludingFilter name ∉ c.setWarnings := by
    rw [setWarnings]
    split <;> simp
  rw [warnings, List.mem_append, or_iff_right hsets, filterWarnings, resolveModels_of_resolve h]
  simp only [List.mem_map, List.mem_filter, List.any_eq_true, Warning.excludingFilter.injEq]
  constructor
  · rintro ⟨f, ⟨hf, hstage⟩, hname⟩
    exact ⟨f, hf, hname, hstage⟩
  · rintro ⟨f, hf, hname, hstage⟩
    exact ⟨f, ⟨hf, hstage⟩, hname⟩

theorem excludesAll_of_resolve (h : c.resolve = .ok res) {f : FilterEntry} (hf : f ∈ c.filters)
    (hstage : ∃ s ∈ f.stages, excludesEverything s = true) :
    ∃ p, res.pipeline? f.name = some p ∧ p.ExcludesAll := by
  obtain ⟨p, hbuild, -, hfind⟩ := exists_pipeline_of_mem_filters h hf
  exact ⟨p, hfind, excludesAll_of_buildPipeline hstage hbuild⟩

/-- A filter with a stage that excludes everything by its form is built into a pipeline that
excludes everything, whatever the matchers. A configuration that resolves warns of these filters and
of no others, so what is found under the name in a warning excludes everything. -/
theorem excludesAll_of_warned :
    (∀ (matchers : NamedMatchers) (f : FilterEntry) (p : Pipeline),
      (∃ s ∈ f.stages, excludesEverything s = true) → buildPipeline matchers f = .ok p →
        p.ExcludesAll) ∧
    ∀ (c : Config) (res : Resolved), c.resolve = .ok res → ∀ name,
      (.excludingFilter name ∈ c.warnings ↔
        ∃ f ∈ c.filters, f.name = name ∧ ∃ s ∈ f.stages, excludesEverything s = true) ∧
      (.excludingFilter name ∈ c.warnings →
        ∃ p, res.pipeline? name = some p ∧ p.ExcludesAll) := by
  refine ⟨fun _ _ _ => excludesAll_of_buildPipeline, fun c res h name => ?_⟩
  refine ⟨excludingFilter_mem_warnings_iff h, fun hwarned => ?_⟩
  obtain ⟨f, hf, rfl, hstage⟩ := (excludingFilter_mem_warnings_iff h).1 hwarned
  exact excludesAll_of_resolve h hf hstage

/-- A filter whose second stage excludes everything, by what it has at two and three depths. -/
def blockedSample : FilterEntry where
  name := "blocked"
  stages := [.degree "near" .incident { RangeKeys.none with equal := some 0 },
    .all [.not (.members []), .any [.nodeKinds [], .all [.nodeKinds ["function"], .any []]]]]

def blockedConfig : Config :=
  { Config.empty with
    matchers := .ofList [("near", .deny)]
    filters := [⟨"open", [.not (.any [])]⟩, blockedSample] }

theorem excludesAll_of_warned_sample :
    (∃ s ∈ blockedSample.stages, excludesEverything s = true) ∧
    (∃ p, buildPipeline (.ofList [("near", .deny)]) blockedSample = .ok p ∧ p.ExcludesAll) ∧
    ∃ res, blockedConfig.resolve = .ok res ∧
      .excludingFilter "blocked" ∈ blockedConfig.warnings ∧
      .excludingFilter "open" ∉ blockedConfig.warnings ∧
      ∃ p, res.pipeline? "blocked" = some p ∧ p.ExcludesAll := by
  obtain ⟨hpipeline, hconfig⟩ := excludesAll_of_warned
  have hstage : ∃ s ∈ blockedSample.stages, excludesEverything s = true := by decide
  obtain ⟨res, hres⟩ : ∃ res, blockedConfig.resolve = .ok res :=
    exists_resolve rfl (acyclic_of_rank (fun _ => 0) (by decide)) (fun m hm => by cases hm)
      (by decide)
  have hwarned := (hconfig blockedConfig res hres "blocked").1.2
    ⟨blockedSample, by simp [blockedConfig], rfl, hstage⟩
  have hopen : .excludingFilter "open" ∉ blockedConfig.warnings := by
    rw [(hconfig blockedConfig res hres "open").1]
    decide
  obtain ⟨p, hp⟩ : ∃ p, buildPipeline (.ofList [("near", .deny)]) blockedSample = .ok p := ⟨_, rfl⟩
  exact ⟨hstage, ⟨p, hp, hpipeline _ _ p hstage hp⟩, res, hres, hwarned, hopen,
    (hconfig blockedConfig res hres "blocked").2 hwarned⟩

end Config

end RelGraph
