import RelGraph.Proofs.Config.Building
import RelGraph.Proofs.Config.Models

/-! Which configurations resolve. Validation settles the references between the entries, so after it
the catalog, the sets and the pipelines are always built. What it leaves open are cycles among the
matchers, what a model lists, and the reserved key of a document. -/

namespace RelGraph.Config

variable {c : Config}

theorem referencesDeclared_of_validate (h : c.validate = .ok ()) : c.ReferencesDeclared := by
  obtain ⟨-, -, hmatchers, -⟩ := validate_eq_ok.1 h
  exact fun e he => (checkMatcher_eq_ok.1 (hmatchers e he)).2

/-- After validation the catalog and the sets are there, matchers are built up to cycles, and models
up to what each of them lists. -/
theorem exists_sets_of_validate (h : c.validate = .ok ()) :
    ∃ catalog sets, c.buildCatalog = .ok catalog ∧ c.buildSets catalog = .ok sets ∧
      ((∃ matchers, c.buildMatchers sets = .ok matchers) ↔ c.Acyclic) ∧
        ((∃ models, c.buildModels catalog = .ok models) ↔ ∀ m ∈ c.models, m.WellListed) := by
  obtain ⟨hrelations, hsets, -, ⟨hmodels, hids⟩, -⟩ := validate_eq_ok.1 h
  obtain ⟨catalog, hcatalog⟩ := exists_buildCatalog hrelations
  obtain ⟨sets, hbuilt⟩ := exists_buildSets hcatalog hsets
  refine ⟨catalog, sets, hcatalog, hbuilt, ?_, ?_⟩
  · refine exists_buildMatchers_iff (fun k hk => ?_) (referencesDeclared_of_validate h)
    rwa [keys_of_buildSets hbuilt]
  · refine exists_buildModels_iff (fun m hm => (hmodels m hm).1) hids fun m hm id hid => ?_
    rw [mem_keys_of_buildCatalog hcatalog]
    exact checkRelationIds_eq_ok.1 (hmodels m hm).2 id hid

/-- After validation the pipelines are built from any matchers that the configuration has. -/
theorem exists_pipelines_of_validate (h : c.validate = .ok ()) {sets : NamedSets}
    {matchers : NamedMatchers} (hmatchers : c.buildMatchers sets = .ok matchers) :
    ∃ pipelines, c.buildPipelines matchers = .ok pipelines := by
  obtain ⟨-, -, -, -, ⟨hfilters, -⟩, -⟩ := validate_eq_ok.1 h
  refine exists_buildPipelines (fun k => ?_) fun f hf => (hfilters f hf).2
  rw [keys_of_buildMatchers hmatchers]

theorem exists_documents_of_validate (h : c.validate = .ok ()) :
    (∃ documents, c.buildDocuments = .ok documents) ↔
      ∀ d ∈ c.documents, Document.reservedKey ∉ d.payload.keys := by
  obtain ⟨-, -, -, -, -, hdocuments, -⟩ := validate_eq_ok.1 h
  exact exists_buildDocuments_iff hdocuments

theorem exists_resolve (hvalid : c.validate = .ok ()) (hacyclic : c.Acyclic)
    (hlisted : ∀ m ∈ c.models, m.WellListed)
    (hreserved : ∀ d ∈ c.documents, Document.reservedKey ∉ d.payload.keys) :
    ∃ r, c.resolve = .ok r := by
  obtain ⟨catalog, sets, hcatalog, hsets, hmatchers, hmodels⟩ := exists_sets_of_validate hvalid
  obtain ⟨matchers, hmatchers⟩ := hmatchers.2 hacyclic
  obtain ⟨models, hmodels⟩ := hmodels.2 hlisted
  obtain ⟨pipelines, hpipelines⟩ := exists_pipelines_of_validate hvalid hmatchers
  obtain ⟨documents, hdocuments⟩ := (exists_documents_of_validate hvalid).2 hreserved
  exact ⟨⟨c.settings, catalog, sets, matchers, models, pipelines, documents⟩,
    resolve_eq_ok.2 ⟨hvalid, hcatalog, hsets, hmatchers, hmodels, hpipelines, hdocuments, rfl⟩⟩

/-- A configuration resolves exactly when it is valid, no matcher refers to itself, its models list
nothing twice and no blank kind, and its documents leave the reserved key alone. Once it is valid,
nothing else can go wrong: the catalog, the sets and the pipelines are built, and the registry too
up to what the models list. -/
theorem exists_resolve_iff (c : Config) :
    ((∃ r, c.resolve = .ok r) ↔ c.validate = .ok () ∧ c.Acyclic ∧ (∀ m ∈ c.models, m.WellListed) ∧
      ∀ d ∈ c.documents, Document.reservedKey ∉ d.payload.keys) ∧
    (c.validate = .ok () → ∃ catalog sets,
      c.buildCatalog = .ok catalog ∧ c.buildSets catalog = .ok sets ∧
      ((∃ models, c.buildModels catalog = .ok models) ↔ ∀ m ∈ c.models, m.WellListed) ∧
      ∀ matchers, c.buildMatchers sets = .ok matchers →
        ∃ pipelines, c.buildPipelines matchers = .ok pipelines) := by
  refine ⟨⟨?_, ?_⟩, ?_⟩
  · rintro ⟨r, hr⟩
    obtain ⟨hvalid, hcatalog, hsets, hmatchers, hmodels, -, hdocuments, -⟩ := resolve_eq_ok.1 hr
    obtain ⟨catalog, sets, hcatalog', hsets', hacyclic, hlisted⟩ := exists_sets_of_validate hvalid
    obtain rfl : catalog = r.catalog := Except.ok.inj (hcatalog'.symm.trans hcatalog)
    obtain rfl : sets = r.relationSets := Except.ok.inj (hsets'.symm.trans hsets)
    exact ⟨hvalid, hacyclic.1 ⟨_, hmatchers⟩, hlisted.1 ⟨_, hmodels⟩,
      (exists_documents_of_validate hvalid).1 ⟨_, hdocuments⟩⟩
  · rintro ⟨hvalid, hacyclic, hlisted, hreserved⟩
    exact exists_resolve hvalid hacyclic hlisted hreserved
  · intro hvalid
    obtain ⟨catalog, sets, hcatalog, hsets, -, hmodels⟩ := exists_sets_of_validate hvalid
    exact ⟨catalog, sets, hcatalog, hsets, hmodels,
      fun matchers hmatchers => exists_pipelines_of_validate hvalid hmatchers⟩

/-- A small configuration in which one matcher refers to two others. -/
def sample : Config where
  settings := .default
  relations := [⟨"calls", "calls", "called by"⟩, ⟨"has", "has", "part of"⟩]
  relationSets := .ofList [("code", ["calls"]), ("tree", ["has"])]
  matchers := .ofList [("callers", .within "code" false true),
    ("parts", .within "tree" true false), ("near", .any ["callers", "parts"])]
  models := [⟨"program", ["function", "module"], ["calls", "has"]⟩]
  filters := [⟨"hubs", [.nodeKinds ["function"],
    .not (.degree "near" .successors { RangeKeys.none with atMost := some 1 })]⟩]
  documents := [⟨"notes", .any, ∅⟩]

theorem exists_resolve_iff_sample :
    sample.validate = .ok () ∧ ∃ catalog sets,
      sample.buildCatalog = .ok catalog ∧ sample.buildSets catalog = .ok sets ∧
      ((∃ models, sample.buildModels catalog = .ok models) ↔ ∀ m ∈ sample.models, m.WellListed) ∧
      ∀ matchers, sample.buildMatchers sets = .ok matchers →
        ∃ pipelines, sample.buildPipelines matchers = .ok pipelines :=
  ⟨rfl, (exists_resolve_iff sample).2 rfl⟩

theorem exists_resolve_sample : ∃ r, sample.resolve = .ok r := by
  refine exists_resolve rfl ?_ ?_ ?_
  · exact acyclic_of_rank (fun name => if name = "near" then 1 else 0) (by decide)
  · intro m hm
    rw [sample, List.mem_singleton] at hm
    subst hm
    exact ⟨by decide +kernel, by decide, by decide⟩
  · decide

end RelGraph.Config
