import RelGraph.Proofs.Config.Entries

/-! The written form of a configuration. What is written is read back without loss: all that changes
is the order of named sets and matchers, which come back by name. No check of a configuration is
made on the way, so it does not have to be one that can be resolved. -/

namespace RelGraph

open Datum

theorem Relation.Descriptor.ofDatum?_toJson (c : Conventions) (r : Descriptor) :
    ofDatum? c (.ofJson r.toJson) = some r := by
  have hnames : ["id", "forward", "reverse"].Nodup := by decide
  rw [ofDatum?, toJson, fields?_ofJson c hnames rfl]
  simp [required?]

namespace Config

theorem Settings.ofDatum?_toJson (c : Conventions) (s : Settings) :
    ofDatum? c (.ofJson s.toJson) = some s := by
  have hnames : ["log_level", "parallel"].Nodup := by decide
  obtain ⟨level, parallel⟩ := s
  have hlevel : nullable? string? (.ofJson ((level.map Json.str).getD .null)) = some level := by
    cases level <;> rfl
  rw [ofDatum?, toJson, fields?_ofJson c hnames rfl]
  simp [optional?, hlevel]

/-- Named entries are read back in the order of their names. -/
theorem named?_namedToJson {α : Type} {f : α → Json} {value : Datum → Option α}
    {l : Listing (Prod.fst : String × α → String)}
    (h : ∀ e ∈ l.entries, value (.ofJson (f e.2)) = some e.2) :
    named? value (.ofJson (namedToJson f l)) = some l.inOrder := by
  have hsorted : sortMembers (l.entries.map fun e => (e.1, f e.2)) =
      (Ascending.ofList l.entries : Ascending Prod.fst).entries.map fun e => (e.1, f e.2) :=
    Ascending.entries_ofList_map (fun _ => rfl) l.entries
  have hvalues : ∀ e ∈ (Ascending.ofList l.entries : Ascending Prod.fst).entries,
      value (.ofJson (f e.2)) = some e.2 :=
    fun e he => h e (l.inOrder_perm.mem_iff.1 he)
  rw [namedToJson, hsorted, named?, map?_ofJson hvalues, Option.map_some]
  rfl

/-! ### Whole configurations -/

/-- All numbers are such as a configuration holds: a count has 64 bits, and property values are
stored values with finite numbers. Nothing else is asked for. -/
structure Representable (c : Config) : Prop where
  counts : ∀ f ∈ c.filters, ∀ matcher mode range, f.Has (.degree matcher mode range) → range.Fits
  properties : ∀ d ∈ c.documents, ∀ e ∈ d.payload.entries, e.2.Stored ∧ e.2.Finite

/-- Two configurations agree in every field. Named sets and matchers are compared as maps from their
names. -/
structure Same (c c' : Config) : Prop where
  settings : c.settings = c'.settings
  relations : c.relations = c'.relations
  relationSets : ∀ name, c.relationSets.find? name = c'.relationSets.find? name
  matchers : ∀ name, c.matchers.find? name = c'.matchers.find? name
  models : c.models = c'.models
  filters : c.filters = c'.filters
  documents : c.documents = c'.documents

/-- The configuration with its named sets and matchers in the order of their names. -/
def inOrder (c : Config) : Config :=
  { c with relationSets := c.relationSets.inOrder, matchers := c.matchers.inOrder }

theorem same_inOrder (c : Config) : c.inOrder.Same c :=
  ⟨rfl, rfl, c.relationSets.find?_inOrder, c.matchers.find?_inOrder, rfl, rfl, rfl⟩

theorem ofDatum?_toJson (conventions : Conventions) {c : Config} (h : c.Representable) :
    ofDatum? conventions (.ofJson c.toJson) = some c.inOrder := by
  have hnames : ["settings", "relations", "relation_sets", "matchers", "models", "filters",
    "documents"].Nodup := by decide
  have hsettings := c.settings.ofDatum?_toJson conventions
  have hrelations := list?_ofJson (l := c.relations) fun r _ =>
    Relation.Descriptor.ofDatum?_toJson conventions r
  have hsets := named?_namedToJson (l := c.relationSets) fun e _ => strings?_ofJson e.2
  have hmatchers := named?_namedToJson (l := c.matchers) fun e _ =>
    e.2.ofDatum?_toJson conventions
  have hmodels := list?_ofJson (l := c.models) fun m _ => m.ofDatum?_toJson conventions
  have hfilters := list?_ofJson (l := c.filters) fun f hf =>
    f.ofDatum?_toJson conventions (h.counts f hf)
  have hdocuments := list?_ofJson (l := c.documents) fun d hd =>
    DocumentEntry.ofDatum?_toJson conventions (h.properties d hd)
  rw [ofDatum?, toJson, fields?_ofJson conventions hnames rfl]
  simp [optional?, hsettings, hrelations, hsets, hmatchers, hmodels, hfilters, hdocuments, inOrder]

/-- Every configuration is read back from its written form, whatever is nested in its filters and
documents and whichever range keys are set. -/
theorem exists_ofJson_toJson_same {c : Config} (h : c.Representable) :
    ∃ c', ofJson c.toJson = .ok c' ∧ c'.Same c ∧
      c'.relationSets.keys.Pairwise (· < ·) ∧ c'.matchers.keys.Pairwise (· < ·) := by
  refine ⟨c.inOrder, ?_, c.same_inOrder, c.relationSets.keys_inOrder_pairwise,
    c.matchers.keys_inOrder_pairwise⟩
  rw [ofJson, ofDatum?_toJson .json h]

/-- Two range keys of which one has its bounds the wrong way round. -/
def unsoundRange : RangeKeys :=
  { RangeKeys.none with equal := some 18446744073709551615, between := some (9, 2) }

/-- Names out of order, a stage at the third depth whose range keys say no range, and properties
with the least and the greatest whole number. -/
def unorderedSample : Config where
  settings := ⟨some "debug", true⟩
  relations := [⟨"calls", "calls", "called by"⟩]
  relationSets := .ofList [("flow", ["reads", "calls"]), ("all", [])]
  matchers := .ofList [("open", .within "flow" true false), ("closed", .deny),
    ("both", .all ["open", "closed"])]
  models := [⟨"program", [], ["calls"]⟩]
  filters := [⟨"hubs", [.members [], .not (.any [.degree "open" .predecessors unsoundRange])]⟩]
  documents := [⟨"notes", .anyOf [.model "program", .allOf []], PropertyMap.put ∅ "limits"
    (.obj [("", .arr [.int (-9223372036854775808), .int 18446744073709551615]), ("to", .null)])⟩]

theorem exists_ofJson_toJson_same_unorderedSample :
    unorderedSample.Representable ∧ unsoundRange.toRange = .error (.schema .severalRanges) ∧
      ¬unorderedSample.matchers.keys.Pairwise (· < ·) ∧
      ∃ c', ofJson unorderedSample.toJson = .ok c' ∧ c'.Same unorderedSample ∧
        c'.relationSets.keys.Pairwise (· < ·) ∧ c'.matchers.keys.Pairwise (· < ·) := by
  have hfits : unsoundRange.Fits := by decide
  have hrepresentable : unorderedSample.Representable := by
    constructor
    · intro f hf matcher mode range hin
      obtain rfl := List.mem_singleton.1 hf
      have hleaf : (StageEntry.degree matcher mode range).IsLeaf := trivial
      have hstages : StageEntry.Within (.degree matcher mode range) (.members []) ∨
          StageEntry.Within (.degree matcher mode range)
            (.degree "open" .predecessors unsoundRange) := by
        simpa [FilterEntry.Has, StageEntry.within_not_iff hleaf,
          StageEntry.within_any_iff hleaf] using hin
      cases hstages with
      | inl h => cases h
      | inr h =>
        cases h
        exact hfits
    · intro d hd e he
      obtain rfl := List.mem_singleton.1 hd
      obtain rfl := List.mem_singleton.1 he
      have hleast : Json.isWritable (-9223372036854775808) = true := by decide
      have hgreatest : Json.isWritable 18446744073709551615 = true := by decide
      constructor
      · exact ⟨by decide, ⟨hleast, hgreatest, trivial⟩, trivial, trivial⟩
      · exact .obj (by simp [Json.Finite.arr, Json.Finite.int, Json.Finite.null])
  exact ⟨hrepresentable, rfl, by decide, exists_ofJson_toJson_same hrepresentable⟩

end Config

end RelGraph
