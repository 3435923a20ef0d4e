import RelGraph.Proofs.Config.Arrangements
import RelGraph.Proofs.Config.Ranges

/-! What it takes for the entries of a configuration to fit together, said without the checks that
look for problems one after the other. Validation accepts exactly the configurations that are
coherent, and in this no order of the entries plays a part, nor that of the stages at any depth. -/

namespace RelGraph.Config

/-- Names that are not blank and all different. -/
structure NamesFit (names : List String) : Prop where
  not_blank : ∀ name ∈ names, Text.isBlank name = false
  nodup : names.Nodup

/-- The entries of the configuration fit together. -/
structure Coherent (c : Config) : Prop where
  relation_ids : ∀ r ∈ c.relations, Text.isBlank r.id = false
  /-- Relations with one identifier have the same labels. -/
  relation_labels : ∀ r ∈ c.relations, ∀ s ∈ c.relations, s.id = r.id →
    s.forward = r.forward ∧ s.reverse = r.reverse
  set_names : ∀ e ∈ c.relationSets.entries, Text.isBlank e.1 = false
  set_members : ∀ e ∈ c.relationSets.entries, ∀ id ∈ e.2, id ∈ c.relationIds
  matcher_names : ∀ e ∈ c.matchers.entries, Text.isBlank e.1 = false
  references : c.ReferencesDeclared
  model_ids : NamesFit (c.models.map ModelEntry.id)
  model_relations : ∀ m ∈ c.models, ∀ id ∈ m.relations, id ∈ c.relationIds
  filter_names : NamesFit (c.filters.map FilterEntry.name)
  patterns : ∀ f ∈ c.filters, ∀ pattern, f.Has (.namePattern pattern) →
    Pattern.compiles pattern = true
  degrees : ∀ f ∈ c.filters, ∀ matcher mode range, f.Has (.degree matcher mode range) →
    matcher ∈ c.matchers.keys ∧ range.Sound
  document_names : NamesFit (c.documents.map (·.name))

variable {c c' : Config}

/-! ### Stages -/

/-- What a leaf refers to is there: a pattern, or a matcher with a range. -/
def LeafFits (c : Config) : StageEntry → Prop
  | .namePattern pattern => Pattern.compiles pattern = true
  | .degree matcher _ range => matcher ∈ c.matchers.keys ∧ range.Sound
  | _ => True

theorem checkStage_leaf {s : StageEntry} (hs : s.IsLeaf) :
    c.checkStage s = .ok () ↔ c.LeafFits s := by
  cases s with
  | nodeKinds kinds => simp [checkStage, LeafFits]
  | members ids => simp [checkStage, LeafFits]
  | namePattern pattern => simp [checkStage, LeafFits]
  | degree matcher mode range =>
    rw [checkStage, LeafFits, ← Listing.contains_iff, ← RangeKeys.exists_toRange_iff]
    split
    · next h => simp [h, Outcome.map_eq_ok]
    · next h => simp [h]
  | not | all | any => exact hs.elim

/-- A stage is accepted when every leaf in it fits, at whatever depth. -/
theorem checkStage_eq_ok {s : StageEntry} :
    c.checkStage s = .ok () ↔ ∀ t : StageEntry, t.IsLeaf → t.Within s → c.LeafFits t := by
  have hleaf (l : StageEntry) (hl : l.IsLeaf) : c.checkStage l = .ok () ↔
      ∀ t : StageEntry, t.IsLeaf → t.Within l → c.LeafFits t := by
    rw [checkStage_leaf hl]
    constructor
    · intro h t _ ht
      exact ht.eq_of_leaf hl ▸ h
    · intro h
      exact h l hl .refl
  induction s with
  | nodeKinds kinds => exact hleaf _ trivial
  | namePattern pattern => exact hleaf _ trivial
  | members ids => exact hleaf _ trivial
  | degree matcher mode range => exact hleaf _ trivial
  | not stage ih =>
    rw [checkStage]
    refine Iff.trans ih (forall₂_congr fun t ht => ?_)
    rw [StageEntry.within_not_iff ht]
  | all stages ih =>
    rw [checkStage, each_checkStage, Outcome.forM_eq_ok]
    constructor
    · intro h t ht hin
      obtain ⟨s, hs, hin⟩ := (StageEntry.within_all_iff ht).1 hin
      exact (ih s hs).1 (h s hs) t ht hin
    · intro h s hs
      exact (ih s hs).2 fun t ht hin => h t ht (.all hs hin)
  | any stages ih =>
    rw [checkStage, each_checkStage, Outcome.forM_eq_ok]
    constructor
    · intro h t ht hin
      obtain ⟨s, hs, hin⟩ := (StageEntry.within_any_iff ht).1 hin
      exact (ih s hs).1 (h s hs) t ht hin
    · intro h s hs
      exact (ih s hs).2 fun t ht hin => h t ht (.any hs hin)

/-- The stages of a filter are accepted when the patterns and the degrees in it fit. -/
theorem checkStages_eq_ok {f : FilterEntry} :
    (∀ s ∈ f.stages, c.checkStage s = .ok ()) ↔
      (∀ pattern, f.Has (.namePattern pattern) → Pattern.compiles pattern = true) ∧
        ∀ matcher mode range, f.Has (.degree matcher mode range) →
          matcher ∈ c.matchers.keys ∧ range.Sound := by
  simp only [checkStage_eq_ok]
  constructor
  · intro h
    constructor
    · rintro pattern ⟨s, hs, hin⟩
      exact h s hs (.namePattern pattern) trivial hin
    · rintro matcher mode range ⟨s, hs, hin⟩
      exact h s hs (.degree matcher mode range) trivial hin
  · rintro ⟨hpatterns, hdegrees⟩ s hs t ht hin
    cases t with
    | nodeKinds | members => trivial
    | namePattern pattern => exact hpatterns pattern ⟨s, hs, hin⟩
    | degree matcher mode range => exact hdegrees matcher mode range ⟨s, hs, hin⟩
    | not | all | any => exact ht.elim

/-! ### Validation -/

theorem checkRelations_eq_ok :
    (∀ r ∈ c.relations, c.checkRelation r = .ok ()) ↔
      (∀ r ∈ c.relations, Text.isBlank r.id = false) ∧
        ∀ r ∈ c.relations, ∀ s ∈ c.relations, s.id = r.id →
          s.forward = r.forward ∧ s.reverse = r.reverse := by
  simp only [checkRelation_eq_ok]
  constructor
  · intro h
    refine ⟨fun r hr => (h r hr).1, fun r hr s hs hid => ?_⟩
    obtain rfl := (h r hr).2 s hs hid
    exact ⟨rfl, rfl⟩
  · rintro ⟨hids, hlabels⟩ r hr
    refine ⟨hids r hr, fun s hs hid => ?_⟩
    obtain ⟨hforward, hreverse⟩ := hlabels r hr s hs hid
    cases r; cases s
    simp_all

theorem namesFit_map_iff {α : Type} {name : α → String} {l : List α} :
    NamesFit (l.map name) ↔ (∀ a ∈ l, Text.isBlank (name a) = false) ∧ (l.map name).Nodup := by
  rw [← List.forall_mem_map (P := fun n => Text.isBlank n = false)]
  exact ⟨fun h => ⟨h.not_blank, h.nodup⟩, fun h => ⟨h.1, h.2⟩⟩

/-- Validation accepts the coherent configurations. -/
theorem validate_eq_ok_iff_coherent : c.validate = .ok () ↔ c.Coherent := by
  rw [validate_eq_ok, checkRelations_eq_ok]
  simp only [checkSet_eq_ok, checkMatcher_eq_ok, checkRelationIds_eq_ok, checkStages_eq_ok]
  constructor
  · rintro ⟨⟨hids, hlabels⟩, hsets, hmatchers, ⟨hmodels, hmodelIds⟩, ⟨hfilters, hfilterNames⟩,
      hdocuments, hdocumentNames⟩
    exact
      { relation_ids := hids
        relation_labels := hlabels
        set_names := fun e he => (hsets e he).1
        set_members := fun e he => (hsets e he).2
        matcher_names := fun e he => (hmatchers e he).1
        references := fun e he => (hmatchers e he).2
        model_ids := namesFit_map_iff.2 ⟨fun m hm => (hmodels m hm).1, hmodelIds⟩
        model_relations := fun m hm => (hmodels m hm).2
        filter_names := namesFit_map_iff.2 ⟨fun f hf => (hfilters f hf).1, hfilterNames⟩
        patterns := fun f hf => (hfilters f hf).2.1
        degrees := fun f hf => (hfilters f hf).2.2
        document_names := namesFit_map_iff.2 ⟨hdocuments, hdocumentNames⟩ }
  · intro h
    obtain ⟨hmodels, hmodelIds⟩ := namesFit_map_iff.1 h.model_ids
    obtain ⟨hfilters, hfilterNames⟩ := namesFit_map_iff.1 h.filter_names
    exact ⟨⟨h.relation_ids, h.relation_labels⟩,
      fun e he => ⟨h.set_names e he, h.set_members e he⟩,
      fun e he => ⟨h.matcher_names e he, h.references e he⟩,
      ⟨fun m hm => ⟨hmodels m hm, h.model_relations m hm⟩, hmodelIds⟩,
      ⟨fun f hf => ⟨hfilters f hf, h.patterns f hf, h.degrees f hf⟩, hfilterNames⟩,
      namesFit_map_iff.1 h.document_names⟩

/-! ### Order -/

theorem NamesFit.of_perm {l m : List String} (h : NamesFit l) (hperm : l.Perm m) : NamesFit m where
  not_blank name hname := h.not_blank name (hperm.mem_iff.2 hname)
  nodup := hperm.nodup_iff.1 h.nodup

/-- What an entry refers to stays declared when no set and no matcher is taken away. -/
theorem EntryDeclared.mono {entry : MatcherEntry} (h : c.EntryDeclared entry)
    (hsets : ∀ name, name ∈ c.relationSets.keys → name ∈ c'.relationSets.keys)
    (hmatchers : ∀ name, name ∈ c.matchers.keys → name ∈ c'.matchers.keys) :
    c'.EntryDeclared entry := by
  cases entry with
  | within set forward reverse => exact hsets set h
  | all names | any names => exact fun n hn => hmatchers n (h n hn)
  | deny => trivial

/-- Entries in another order fit together when they did before. -/
theorem Coherent.of_rearranged (h : c.Coherent) (harr : c.Rearranged c') : c'.Coherent := by
  have hids (id : String) : id ∈ c.relationIds → id ∈ c'.relationIds :=
    (harr.relations.map _).mem_iff.1
  have hsets (name : String) : name ∈ c.relationSets.keys → name ∈ c'.relationSets.keys :=
    (harr.relationSets.map _).mem_iff.1
  have hmatchers (name : String) : name ∈ c.matchers.keys → name ∈ c'.matchers.keys :=
    (harr.matchers.map _).mem_iff.1
  have hhas {s : StageEntry} (hs : s.IsLeaf) {f : FilterEntry} (hf : f ∈ c'.filters)
      (hin : f.Has s) : ∃ f ∈ c.filters, f.Has s :=
    (harr.filters.has_iff hs).2 ⟨f, hf, hin⟩
  refine
    { relation_ids := fun r hr => h.relation_ids r (harr.relations.mem_iff.2 hr)
      relation_labels := fun r hr s hs =>
        h.relation_labels r (harr.relations.mem_iff.2 hr) s (harr.relations.mem_iff.2 hs)
      set_names := fun e he => h.set_names e (harr.relationSets.mem_iff.2 he)
      set_members := fun e he id hid =>
        hids id (h.set_members e (harr.relationSets.mem_iff.2 he) id hid)
      matcher_names := fun e he => h.matcher_names e (harr.matchers.mem_iff.2 he)
      references := fun e he => ?_
      model_ids := h.model_ids.of_perm (harr.models.map _)
      model_relations := fun m hm id hid =>
        hids id (h.model_relations m (harr.models.mem_iff.2 hm) id hid)
      filter_names := h.filter_names.of_perm harr.filters.names_perm
      patterns := fun f hf pattern hin => ?_
      degrees := fun f hf matcher mode range hin => ?_
      document_names := h.document_names.of_perm (harr.documents.map _) }
  · exact (h.references e (harr.matchers.mem_iff.2 he)).mono hsets hmatchers
  · obtain ⟨f', hf', hin'⟩ := hhas (s := .namePattern pattern) trivial hf hin
    exact h.patterns f' hf' pattern hin'
  · obtain ⟨f', hf', hin'⟩ := hhas (s := .degree matcher mode range) trivial hf hin
    obtain ⟨hmatcher, hrange⟩ := h.degrees f' hf' matcher mode range hin'
    exact ⟨hmatchers matcher hmatcher, hrange⟩

theorem Rearranged.coherent_iff (harr : c.Rearranged c') : c'.Coherent ↔ c.Coherent :=
  ⟨fun h => h.of_rearranged harr.symm, fun h => h.of_rearranged harr⟩

/-! ### The whole -/

/-- Validation accepts a configuration exactly when it is coherent, and so it does not depend on the
order of the entries, nor on that of the stages at any depth. -/
theorem validate_iff_coherent_of_any_order (c : Config) :
    (c.validate = .ok () ↔ c.Coherent) ∧
      ∀ c', c.Rearranged c' → (c'.validate = .ok () ↔ c.validate = .ok ()) := by
  refine ⟨validate_eq_ok_iff_coherent, fun c' harr => ?_⟩
  rw [validate_eq_ok_iff_coherent, validate_eq_ok_iff_coherent, harr.coherent_iff]

/-- A relation that is declared twice, a matcher that refers to itself, and stages at three
depths. -/
def nestedSample : Config where
  settings := .default
  relations := [⟨"calls", "calls", "called by"⟩, ⟨"has", "has", "part of"⟩,
    ⟨"calls", "calls", "called by"⟩]
  relationSets := .ofList [("code", ["calls"]), ("all", ["has", "calls"])]
  matchers := .ofList [("near", .any ["near", "callers"]), ("callers", .within "code" false true)]
  models := [⟨"program", ["function"], ["calls"]⟩, ⟨"layout", [], ["has"]⟩]
  filters := [⟨"hubs", [.members ["main"], .not (.any [.nodeKinds ["module"],
    .all [.namePattern "^a+", .degree "near" .incident .none]])]⟩, ⟨"rest", []⟩]
  documents := [⟨"notes", .any, ∅⟩, ⟨"plan", .model "layout", ∅⟩]

/-- The sample with its relations, models, filters, documents and stages in another order. -/
def nestedSampleRearranged : Config := { nestedSample with
  relations := [⟨"has", "has", "part of"⟩, ⟨"calls", "calls", "called by"⟩,
    ⟨"calls", "calls", "called by"⟩]
  models := [⟨"layout", [], ["has"]⟩, ⟨"program", ["function"], ["calls"]⟩]
  filters := [⟨"rest", []⟩, ⟨"hubs", [.not (.any [.all [.degree "near" .incident .none,
    .namePattern "^a+"], .nodeKinds ["module"]]), .members ["main"]]⟩]
  documents := [⟨"plan", .model "layout", ∅⟩, ⟨"notes", .any, ∅⟩] }

theorem rearranged_nestedSample : nestedSample.Rearranged nestedSampleRearranged where
  relations := by decide
  relationSets := .refl _
  matchers := .refl _
  models := .swap _ _ _
  filters := by
    have hall : StageEntry.Rearranged
        [.nodeKinds ["module"], .all [.namePattern "^a+", .degree "near" .incident .none]]
        [.nodeKinds ["module"], .all [.degree "near" .incident .none, .namePattern "^a+"]] :=
      .all (l := [_]) (m := []) (.perm (.swap _ _ _))
    have hany := hall.trans (.perm (.swap _ _ _))
    have hnot := StageEntry.Rearranged.not (l := [.members ["main"]]) (m := [])
      (.any (l := []) (m := []) hany)
    exact .trans (.stages (l := []) (m := [_]) (hnot.trans (.perm (.swap _ _ _))))
      (.perm (.swap _ _ _))
  documents := .swap _ _ _

theorem validate_iff_coherent_of_any_order_sample :
    nestedSample.Coherent ∧ nestedSample.Rearranged nestedSampleRearranged ∧
      nestedSampleRearranged.validate = .ok () := by
  have hvalid : nestedSample.validate = .ok () := rfl
  obtain ⟨hcoherent, horder⟩ := validate_iff_coherent_of_any_order nestedSample
  exact ⟨hcoherent.1 hvalid, rearranged_nestedSample,
    (horder _ rearranged_nestedSample).2 hvalid⟩

end RelGraph.Config
