import RelGraph.Config.Resolution
import RelGraph.Proofs.Catalog
import RelGraph.Proofs.Model
import RelGraph.Proofs.Registry

/-! Building and registering the configured models. All of them take their relations from one
catalog, so no two of them disagree on a relation; what can still be refused is a model by
itself. -/

namespace RelGraph.Config

variable {catalog : Catalog}

/-- No kind of the model is blank, and no kind and no relation is listed twice. -/
structure ModelEntry.WellListed (m : ModelEntry) : Prop where
  kinds_not_blank : ∀ k ∈ m.nodeKinds, Text.isBlank k = false
  kinds_nodup : m.nodeKinds.Nodup
  relations_nodup : m.relations.Nodup

theorem buildModel_eq_ok {m : ModelEntry} {model : Model} :
    buildModel catalog m = .ok model ↔
      ∃ l, catalog.resolveAll m.relations = .ok l ∧ Model.build m.id m.nodeKinds l = .ok model := by
  simp only [buildModel, Outcome.bind_eq_ok, Outcome.ofGraph_eq_ok]

theorem exists_buildModel_iff {m : ModelEntry} (hid : Text.isBlank m.id = false)
    (hrelations : ∀ id ∈ m.relations, id ∈ catalog.keys) :
    (∃ model, buildModel catalog m = .ok model) ↔ m.WellListed := by
  obtain ⟨l, hl⟩ := Catalog.exists_resolveAll_iff.2 hrelations
  have hids : l.map Relation.id = m.relations := (Catalog.resolveAll_eq_ok.1 hl).1
  have hbuild : (∃ model, buildModel catalog m = .ok model) ↔
      ∃ model, Model.build m.id m.nodeKinds l = .ok model := by
    simp [buildModel_eq_ok, hl]
  rw [hbuild, Model.exists_build_iff, hids]
  exact ⟨fun ⟨_, ⟨hblank, hkinds⟩, hnodup⟩ => ⟨hblank, hkinds, hnodup⟩,
    fun h => ⟨hid, ⟨h.kinds_not_blank, h.kinds_nodup⟩, h.relations_nodup⟩⟩

/-- The relations of the registered models are those of the catalog. -/
def Registered (catalog : Catalog) (registry : Registry) : Prop :=
  ∀ r ∈ registry.relations.entries, r ∈ catalog.entries

/-- Models of one catalog agree on their relations, so a model is registered unless its identifier
is taken. -/
theorem addModel_eq_ok {registry registry' : Registry} {m : ModelEntry}
    (hregistered : Registered catalog registry) :
    addModel catalog registry m = .ok registry' ↔ ∃ model, buildModel catalog m = .ok model ∧
      m.id ∉ registry.models.keys ∧ registry' =
        ⟨registry.models.add model, model.relations.foldl Listing.add registry.relations⟩ := by
  simp only [addModel, Outcome.bind_eq_ok, Outcome.ofGraph_eq_ok, Registry.register_eq_ok]
  refine exists_congr fun model => and_congr_right fun hmodel => ?_
  obtain ⟨l, hl, hbuild⟩ := buildModel_eq_ok.1 hmodel
  obtain ⟨hid, -, hrelations⟩ := Model.of_build hbuild
  have hagree : ∀ own ∈ model.relations, ∀ old ∈ registry.relations.entries,
      old.id = own.id → old = own := by
    intro own hown old hold he
    have hown' : own ∈ catalog.entries :=
      (Catalog.resolveAll_eq_ok.1 hl).2 own (hrelations ▸ hown)
    exact Listing.eq_of_key_eq (hregistered old hold) hown' he
  rw [hid, and_iff_right hagree]

theorem Registered.addModel {registry registry' : Registry} {m : ModelEntry}
    (hregistered : Registered catalog registry)
    (h : addModel catalog registry m = .ok registry') :
    Registered catalog registry' ∧ ∀ k, k ∈ registry'.models.keys ↔
      k ∈ registry.models.keys ∨ k = m.id := by
  obtain ⟨model, hmodel, -, rfl⟩ := (addModel_eq_ok hregistered).1 h
  obtain ⟨l, hl, hbuild⟩ := buildModel_eq_ok.1 hmodel
  obtain ⟨hid, -, hrelations⟩ := Model.of_build hbuild
  refine ⟨fun r hr => ?_, fun k => by rw [Listing.mem_keys_add, hid]⟩
  rcases Listing.mem_of_mem_foldl_add hr with hr | hr
  · exact hregistered r hr
  · exact (Catalog.resolveAll_eq_ok.1 hl).2 r (hrelations ▸ hr)

theorem exists_foldlM_addModel_iff {models : List ModelEntry} {registry : Registry}
    (hregistered : Registered catalog registry)
    (hids : ∀ m ∈ models, Text.isBlank m.id = false)
    (hrelations : ∀ m ∈ models, ∀ id ∈ m.relations, id ∈ catalog.keys)
    (hnodup : (models.map ModelEntry.id).Nodup)
    (hnew : ∀ m ∈ models, m.id ∉ registry.models.keys) :
    (∃ r, models.foldlM (Config.addModel catalog) registry = .ok r) ↔
      ∀ m ∈ models, m.WellListed := by
  induction models generalizing registry with
  | nil => simp
  | cons m rest ih =>
    obtain ⟨hm, hrest⟩ := List.nodup_cons.1 hnodup
    have htail {registry' : Registry} (h : Config.addModel catalog registry m = .ok registry') :
        (∃ r, rest.foldlM (Config.addModel catalog) registry' = .ok r) ↔
          ∀ m ∈ rest, m.WellListed := by
      obtain ⟨hregistered', hkeys⟩ := hregistered.addModel h
      refine ih hregistered' (fun n hn => hids n (by simp [hn]))
        (fun n hn => hrelations n (by simp [hn])) hrest fun n hn hmem => ?_
      rcases (hkeys n.id).1 hmem with hmem | he
      · exact hnew n (by simp [hn]) hmem
      · exact hm (List.mem_map.2 ⟨n, hn, he⟩)
    have hhead := exists_buildModel_iff (hids m (by simp)) (hrelations m (by simp))
    simp only [List.foldlM_cons, Outcome.bind_eq_ok, List.forall_mem_cons]
    constructor
    · rintro ⟨r, registry', hadd, hfold⟩
      obtain ⟨model, hmodel, -⟩ := (addModel_eq_ok hregistered).1 hadd
      exact ⟨hhead.1 ⟨model, hmodel⟩, (htail hadd).1 ⟨r, hfold⟩⟩
    · rintro ⟨hlisted, hlistedRest⟩
      obtain ⟨model, hmodel⟩ := hhead.2 hlisted
      have hadd := (addModel_eq_ok hregistered).2 ⟨model, hmodel, hnew m (by simp), rfl⟩
      obtain ⟨r, hfold⟩ := (htail hadd).2 hlistedRest
      exact ⟨r, _, hadd, hfold⟩

/-- The registered models are the built ones, in the order of the configuration. -/
theorem entries_of_foldlM_addModel {models : List ModelEntry} {registry registry' : Registry}
    (hregistered : Registered catalog registry)
    (h : models.foldlM (Config.addModel catalog) registry = .ok registry') :
    ∃ built, List.Forall₂ (fun m model => buildModel catalog m = .ok model) models built ∧
      registry'.models.entries = registry.models.entries ++ built := by
  induction models generalizing registry with
  | nil =>
    rw [List.foldlM_nil, Outcome.pure_eq_ok] at h
    exact ⟨[], .nil, by rw [h, List.append_nil]⟩
  | cons m rest ih =>
    rw [List.foldlM_cons, Outcome.bind_eq_ok] at h
    obtain ⟨next, hadd, hrest⟩ := h
    obtain ⟨built, hbuilt, hentries⟩ := ih (hregistered.addModel hadd).1 hrest
    obtain ⟨model, hmodel, hnew, rfl⟩ := (addModel_eq_ok hregistered).1 hadd
    obtain ⟨l, -, hbuild⟩ := buildModel_eq_ok.1 hmodel
    rw [← (Model.of_build hbuild).1] at hnew
    refine ⟨model :: built, .cons hmodel hbuilt, ?_⟩
    rw [hentries, Listing.entries_add, if_neg hnew, List.append_assoc, List.singleton_append]

/-- A configured model is registered under its identifier as it is built. -/
theorem exists_model_of_mem {c : Config} {registry : Registry}
    (h : c.buildModels catalog = .ok registry) {m : ModelEntry} (hm : m ∈ c.models) :
    ∃ model, buildModel catalog m = .ok model ∧ registry.get? m.id = some model := by
  have hempty : Registered catalog ∅ := fun r hr => by cases hr
  obtain ⟨built, hbuilt, hentries⟩ := entries_of_foldlM_addModel hempty h
  obtain ⟨model, hmem, hmodel⟩ := hbuilt.exists_mem hm
  obtain ⟨l, -, hbuild⟩ := buildModel_eq_ok.1 hmodel
  refine ⟨model, hmodel, Listing.find?_eq_some_iff.2 ⟨?_, (Model.of_build hbuild).1⟩⟩
  rw [hentries]
  exact List.mem_append_right _ hmem

theorem exists_buildModels_iff {c : Config} (hids : ∀ m ∈ c.models, Text.isBlank m.id = false)
    (hnodup : (c.models.map ModelEntry.id).Nodup)
    (hrelations : ∀ m ∈ c.models, ∀ id ∈ m.relations, id ∈ catalog.keys) :
    (∃ models, c.buildModels catalog = .ok models) ↔ ∀ m ∈ c.models, m.WellListed := by
  have hempty : Registered catalog ∅ := fun r hr => by cases hr
  exact exists_foldlM_addModel_iff hempty hids hrelations hnodup fun m _ hm => by cases hm

end RelGraph.Config
