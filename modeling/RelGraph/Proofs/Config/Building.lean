import RelGraph.Proofs.Catalog
import RelGraph.Proofs.Config.References
import RelGraph.Proofs.Config.Stages
import RelGraph.Proofs.Document

/-! The building steps of a resolution, each by itself: what it gives, and when it gives something.
Named things are built one by one under their names, so they are as many as were configured. -/

namespace RelGraph.Config

variable {c : Config} {catalog : Catalog} {sets : NamedSets} {matchers : NamedMatchers}

/-! ### Listings of built things -/

section Built

variable {α β : Type} {key : α → String} {key' : β → String} {f : α → Except Problem β}

/-- Things that are built under distinct names are listed as they are built. -/
theorem ofList_mapM_eq_ok {l : List α} {m : Listing key'} (hnodup : (l.map key).Nodup)
    (hkey : ∀ a b, f a = .ok b → key' b = key a) :
    (do return .ofList (← l.mapM f) : Except Problem (Listing key')) = .ok m ↔
      List.Forall₂ (fun a b => f a = .ok b) l m.entries := by
  simp only [Outcome.bind_eq_ok, Outcome.pure_eq_ok, Outcome.mapM_eq_ok]
  have hentries {bs : List β} (h : List.Forall₂ (fun a b => f a = .ok b) l bs) :
      (Listing.ofList bs : Listing key').entries = bs :=
    Listing.entries_ofList (h.map_eq_map hkey ▸ hnodup)
  constructor
  · rintro ⟨bs, hbs, rfl⟩
    rwa [hentries hbs]
  · intro h
    exact ⟨m.entries, h, Listing.ext_entries (hentries h)⟩

theorem exists_ofList_mapM_iff {l : List α} :
    (∃ m, (do return .ofList (← l.mapM f) : Except Problem (Listing key')) = .ok m) ↔
      ∀ a ∈ l, ∃ b, f a = .ok b := by
  rw [← Outcome.exists_mapM_eq_ok]
  simp only [Outcome.bind_eq_ok, Outcome.pure_eq_ok]
  constructor
  · rintro ⟨m, built, h, -⟩
    exact ⟨built, h⟩
  · rintro ⟨built, h⟩
    exact ⟨_, built, h, rfl⟩

end Built

/-! ### Relations and sets -/

theorem mapM_build_eq_ok {l : List Relation.Descriptor} {relations : List Relation} :
    l.mapM Relation.Descriptor.build = .ok relations ↔
      relations.map Relation.descriptor = l := by
  rw [Outcome.mapM_eq_ok]
  constructor
  · intro h
    simpa using h.map_eq_map (f := id) (g := Relation.descriptor) fun _ _ => Relation.build_eq_ok.1
  · rintro rfl
    exact List.forall₂_map_left_iff.2 (List.forall₂_same.2 fun r _ => Relation.build_descriptor r)

theorem buildCatalog_eq_ok :
    c.buildCatalog = .ok catalog ↔ ∃ relations : List Relation,
      relations.map Relation.descriptor = c.relations ∧ Catalog.Consistent relations ∧
        catalog = .ofList relations := by
  simp only [buildCatalog, Outcome.bind_eq_ok, Outcome.ofGraph_eq_ok, mapM_build_eq_ok,
    Catalog.ofRelations_eq_ok]

theorem mem_keys_of_buildCatalog (h : c.buildCatalog = .ok catalog) (id : String) :
    id ∈ catalog.keys ↔ id ∈ c.relationIds := by
  obtain ⟨relations, hrelations, -, rfl⟩ := buildCatalog_eq_ok.1 h
  have hids : c.relationIds = relations.map Relation.id := by
    rw [relationIds, ← hrelations, List.map_map]
    rfl
  rw [hids]
  exact Listing.mem_keys_ofList

/-- Relations that are accepted are a catalog. -/
theorem exists_buildCatalog (h : ∀ r ∈ c.relations, c.checkRelation r = .ok ()) :
    ∃ catalog, c.buildCatalog = .ok catalog := by
  have hbuild : ∀ d ∈ c.relations, ∃ r, d.build = .ok r := fun d hd =>
    Relation.exists_build_iff.2 (checkRelation_eq_ok.1 (h d hd)).1
  obtain ⟨relations, hrelations⟩ := Outcome.exists_mapM_eq_ok.2 hbuild
  rw [mapM_build_eq_ok] at hrelations
  have hmem : ∀ r ∈ relations, r.descriptor ∈ c.relations := fun r hr =>
    hrelations ▸ List.mem_map.2 ⟨r, hr, rfl⟩
  refine ⟨_, buildCatalog_eq_ok.2 ⟨relations, hrelations, fun r hr s hs hid => ?_, rfl⟩⟩
  -- one identifier has one descriptor, and with it one relation
  have hdescriptor : r.descriptor = s.descriptor :=
    (checkRelation_eq_ok.1 (h _ (hmem s hs))).2 _ (hmem r hr) hid
  have hbuilt := Relation.build_descriptor s
  rw [← hdescriptor, Relation.build_descriptor, Except.ok.injEq] at hbuilt
  exact hbuilt

theorem buildSet_eq_ok {e : String × List String} {s : String × RelationSet} :
    buildSet catalog e = .ok s ↔
      ∃ l, catalog.resolveAll e.2 = .ok l ∧ s = (e.1, .ofList e.1 l) := by
  simp only [buildSet, Outcome.bind_eq_ok, Outcome.ofGraph_eq_ok, Outcome.pure_eq_ok,
    eq_comm (a := s)]

theorem buildSets_eq_ok :
    c.buildSets catalog = .ok sets ↔
      List.Forall₂ (fun e s => buildSet catalog e = .ok s) c.relationSets.entries sets.entries := by
  refine ofList_mapM_eq_ok c.relationSets.nodup fun e s h => ?_
  obtain ⟨l, -, rfl⟩ := buildSet_eq_ok.1 h
  rfl

theorem keys_of_buildSets (h : c.buildSets catalog = .ok sets) :
    sets.keys = c.relationSets.keys := by
  refine (buildSets_eq_ok.1 h).map_eq_map fun e s h => ?_
  obtain ⟨l, -, rfl⟩ := buildSet_eq_ok.1 h
  rfl

/-- Sets that are accepted can be built. -/
theorem exists_buildSets (hcatalog : c.buildCatalog = .ok catalog)
    (h : ∀ e ∈ c.relationSets.entries, c.checkSet e = .ok ()) :
    ∃ sets, c.buildSets catalog = .ok sets := by
  refine exists_ofList_mapM_iff.2 fun e he => ?_
  have hids : ∀ id ∈ e.2, id ∈ catalog.keys := fun id hid =>
    (mem_keys_of_buildCatalog hcatalog id).2 ((checkSet_eq_ok.1 (h e he)).2 id hid)
  obtain ⟨l, hl⟩ := Catalog.exists_resolveAll_iff.2 hids
  exact ⟨_, buildSet_eq_ok.2 ⟨l, hl, rfl⟩⟩

/-! ### Matchers -/

theorem buildMatcher_eq_ok {name : String} {e : String × Matcher} :
    buildMatcher c sets name = .ok e ↔ ∃ m, matcherAt c sets [] name = .ok m ∧ e = (name, m) := by
  simp only [buildMatcher, Outcome.bind_eq_ok, Outcome.pure_eq_ok, eq_comm (a := e)]

theorem nodup_matchers_keys : (c.matchers.keys.map id).Nodup := by
  rw [List.map_id]
  exact c.matchers.nodup

theorem buildMatchers_eq_ok :
    c.buildMatchers sets = .ok matchers ↔
      List.Forall₂ (fun name e => buildMatcher c sets name = .ok e) c.matchers.keys
        matchers.entries := by
  refine ofList_mapM_eq_ok nodup_matchers_keys fun name e h => ?_
  obtain ⟨m, -, rfl⟩ := buildMatcher_eq_ok.1 h
  rfl

theorem keys_of_buildMatchers (h : c.buildMatchers sets = .ok matchers) :
    matchers.keys = c.matchers.keys := by
  rw [← List.map_id c.matchers.keys]
  refine (buildMatchers_eq_ok.1 h).map_eq_map fun name e h => ?_
  obtain ⟨m, -, rfl⟩ := buildMatcher_eq_ok.1 h
  rfl

theorem exists_buildMatchers_iff (hsets : ∀ k ∈ c.relationSets.keys, k ∈ sets.keys)
    (hdecl : c.ReferencesDeclared) : (∃ ms, c.buildMatchers sets = .ok ms) ↔ c.Acyclic := by
  rw [← forall_exists_matcherAt_iff hsets hdecl]
  refine exists_ofList_mapM_iff.trans (forall₂_congr fun name _ => ?_)
  simp only [buildMatcher_eq_ok]
  exact ⟨fun ⟨_, m, hm, _⟩ => ⟨m, hm⟩, fun ⟨m, hm⟩ => ⟨_, m, hm, rfl⟩⟩

/-! ### Pipelines -/

theorem buildPipeline_eq_ok {f : FilterEntry} {p : Pipeline} :
    buildPipeline matchers f = .ok p ↔
      ∃ stages, f.stages.mapM (buildStage matchers) = .ok stages ∧ p = ⟨f.name, stages⟩ := by
  simp only [buildPipeline, each_buildStage, Outcome.bind_eq_ok, Outcome.pure_eq_ok,
    eq_comm (a := p)]

theorem buildPipelines_eq_ok {pipelines : Listing Pipeline.name}
    (hnodup : (c.filters.map FilterEntry.name).Nodup) :
    c.buildPipelines matchers = .ok pipelines ↔
      List.Forall₂ (fun f p => buildPipeline matchers f = .ok p) c.filters pipelines.entries := by
  refine ofList_mapM_eq_ok hnodup fun f p h => ?_
  obtain ⟨stages, -, rfl⟩ := buildPipeline_eq_ok.1 h
  rfl

/-- Filters whose stages are accepted can be built. -/
theorem exists_buildPipelines (hkeys : ∀ k, k ∈ matchers.keys ↔ k ∈ c.matchers.keys)
    (h : ∀ f ∈ c.filters, ∀ s ∈ f.stages, c.checkStage s = .ok ()) :
    ∃ pipelines, c.buildPipelines matchers = .ok pipelines := by
  refine exists_ofList_mapM_iff.2 fun f hf => ?_
  obtain ⟨stages, hstages⟩ := Outcome.exists_mapM_eq_ok.2 fun s hs =>
    (exists_buildStage_iff hkeys).2 (h f hf s hs)
  exact ⟨_, buildPipeline_eq_ok.2 ⟨stages, hstages, rfl⟩⟩

/-! ### Documents -/

theorem exists_buildDocuments_iff (hnames : ∀ d ∈ c.documents, Text.isBlank d.name = false) :
    (∃ documents, c.buildDocuments = .ok documents) ↔
      ∀ d ∈ c.documents, Document.reservedKey ∉ d.payload.keys := by
  simp only [buildDocuments, Outcome.ofGraph_eq_ok, Outcome.exists_mapM_eq_ok,
    Document.Descriptor.build, Document.exists_make_iff, Document.property?_eq_none_iff]
  exact forall₂_congr fun d hd => and_iff_right (hnames d hd)

theorem describe_of_build {entry : DocumentEntry} {d : Document PropertyMap}
    (h : entry.build = .ok d) : d.describe = entry := by
  obtain ⟨hname, hmatcher, hpayload, -⟩ := Document.parts_of_make h
  rw [Document.describe, hname, hmatcher, hpayload]

/-- The documents are built as they are configured, in their order. -/
theorem map_describe_of_buildDocuments {documents : List (Document PropertyMap)}
    (h : c.buildDocuments = .ok documents) : documents.map Document.describe = c.documents := by
  rw [buildDocuments, Outcome.ofGraph_eq_ok, Outcome.mapM_eq_ok] at h
  rw [← List.map_id c.documents]
  exact h.map_eq_map fun _ _ => describe_of_build

/-! ### The whole -/

theorem resolve_eq_ok {r : Resolved} :
    c.resolve = .ok r ↔ c.validate = .ok () ∧ c.buildCatalog = .ok r.catalog ∧
      c.buildSets r.catalog = .ok r.relationSets ∧ c.buildMatchers r.relationSets = .ok r.matchers ∧
        c.buildModels r.catalog = .ok r.models ∧ c.buildPipelines r.matchers = .ok r.pipelines ∧
          c.buildDocuments = .ok r.documents ∧ r.settings = c.settings := by
  simp only [resolve, Outcome.bind_eq_ok, Outcome.pure_eq_ok]
  constructor
  · rintro ⟨⟨⟩, hvalid, catalog, hcatalog, sets, hsets, matchers, hmatchers, models, hmodels,
      pipelines, hpipelines, documents, hdocuments, rfl⟩
    exact ⟨hvalid, hcatalog, hsets, hmatchers, hmodels, hpipelines, hdocuments, rfl⟩
  · rintro ⟨hvalid, hcatalog, hsets, hmatchers, hmodels, hpipelines, hdocuments, hsettings⟩
    refine ⟨(), hvalid, _, hcatalog, _, hsets, _, hmatchers, _, hmodels, _, hpipelines, _,
      hdocuments, ?_⟩
    rw [← hsettings]

/-- Every filter of a configuration that resolves is a pipeline under its name, built from the
entry. -/
theorem exists_pipeline_of_mem_filters {r : Resolved} (hresolve : c.resolve = .ok r)
    {f : FilterEntry} (hf : f ∈ c.filters) :
    ∃ p, buildPipeline r.matchers f = .ok p ∧ p.name = f.name ∧ r.pipeline? f.name = some p := by
  obtain ⟨hvalid, -, -, -, -, hpipelines, -, -⟩ := resolve_eq_ok.1 hresolve
  obtain ⟨-, -, -, -, ⟨-, hnames⟩, -⟩ := validate_eq_ok.1 hvalid
  obtain ⟨p, hp, hbuild⟩ := ((buildPipelines_eq_ok hnames).1 hpipelines).exists_mem hf
  have hname : p.name = f.name := by
    obtain ⟨stages, -, rfl⟩ := buildPipeline_eq_ok.1 hbuild
    rfl
  exact ⟨p, hbuild, hname, Listing.find?_eq_some_iff.2 ⟨hp, hname⟩⟩

end RelGraph.Config
