import RelGraph.Config.Entry
import RelGraph.Proofs.Applicability
import RelGraph.Proofs.Config.Arrangements
import RelGraph.Proofs.Config.Ranges
import RelGraph.Proofs.Document

/-! The entries of a configuration and their written forms. Each is read back from what is written
for it, whatever the conventions, and a stage however deep stages are nested in it. The range keys
of a degree stage stand beside the other fields of the stage. Those that are not set are left out,
so reading them is looking each of them up in a table that has other entries, too. -/

namespace RelGraph

open Datum

/-! ### Range keys -/

/-- The bounds of the range are counts of 64 bits. -/
def CountRange.Fits : CountRange → Prop
  | any => True
  | equal n | notEqual n | lessThan n | atMost n | greaterThan n | atLeast n => n < Nat.pow 2 64
  | between min max | outside min max => min < Nat.pow 2 64 ∧ max < Nat.pow 2 64

instance : DecidablePred CountRange.Fits
  | .any => inferInstanceAs (Decidable True)
  | .equal n | .notEqual n | .lessThan n | .atMost n | .greaterThan n | .atLeast n =>
    inferInstanceAs (Decidable (n < Nat.pow 2 64))
  | .between min max | .outside min max =>
    inferInstanceAs (Decidable (min < Nat.pow 2 64 ∧ max < Nat.pow 2 64))

namespace Config

namespace RangeKeys

/-- The range of every key that is set fits. How many are set, and in which order the bounds of a
range are, does not matter. -/
def Fits (k : RangeKeys) : Prop := ∀ range ∈ k.ranges, range.Fits

instance : DecidablePred Fits := fun k =>
  inferInstanceAs (Decidable (∀ range ∈ k.ranges, range.Fits))

/-- The keys with the data of those that are set. -/
def fields (k : RangeKeys) : List (String × Option Datum) :=
  [("equal", k.equal.map nat), ("not_equal", k.notEqual.map nat), ("less_than", k.lessThan.map nat),
    ("at_most", k.atMost.map nat), ("greater_than", k.greaterThan.map nat),
    ("at_least", k.atLeast.map nat), ("between", k.between.map fun b => list [nat b.1, nat b.2]),
    ("outside", k.outside.map fun b => list [nat b.1, nat b.2])]

theorem countMember_eq_present (name : String) (n : Option Nat) :
    (countMember name n).map (fun m => (m.1, Datum.ofJson m.2)) = present [(name, n.map nat)] := by
  cases n <;> rfl

theorem boundsMember_eq_present (name : String) (b : Option (Nat × Nat)) :
    (boundsMember name b).map (fun m => (m.1, Datum.ofJson m.2)) =
      present [(name, b.map fun b => list [nat b.1, nat b.2])] := by
  cases b <;> rfl

/-- The keys that are set are what is written. -/
theorem members_eq_present (k : RangeKeys) :
    k.members.map (fun m => (m.1, Datum.ofJson m.2)) = present k.fields := by
  simp only [members, List.map_append, countMember_eq_present, boundsMember_eq_present]
  simp only [present, ← List.filterMap_append]
  rfl

theorem count_ofField {n : Option Nat} (h : ∀ m ∈ n, m < Nat.pow 2 64) :
    optional? .none (nullable? count?) (n.map nat) = some n := by
  cases n with
  | none => rfl
  | some m =>
    rw [Option.map_some, optional?, nullable?, count?, if_pos (h m rfl), Option.map_some]
    nofun

theorem bounds_ofField {b : Option (Nat × Nat)}
    (h : ∀ p ∈ b, p.1 < Nat.pow 2 64 ∧ p.2 < Nat.pow 2 64) :
    optional? .none (nullable? bounds?) (b.map fun b => list [nat b.1, nat b.2]) = some b := by
  cases b with
  | none => rfl
  | some p =>
    obtain ⟨hmin, hmax⟩ := h p rfl
    rw [Option.map_some, optional?, nullable?, bounds?, count?, count?, if_pos hmin, if_pos hmax]
    · rfl
    · nofun

/-- Range keys are read back from among other entries. -/
theorem ofDatum?_present (c : Conventions) {k : RangeKeys} (hfits : k.Fits)
    {front : List (String × Datum)}
    (hkeys : (front.map Prod.fst ++ k.fields.map Prod.fst).Nodup) :
    ofDatum? c (table (front ++ present k.fields)) = some k := by
  have hfields : fields? c names (table (front ++ present k.fields)) =
      some (k.fields.map Prod.snd) := fields?_present hkeys c
  rw [Fits, ranges, forall_mem_filterMap_id] at hfits
  simp only [List.forall_mem_cons, Option.forall_mem_map, CountRange.Fits] at hfits
  obtain ⟨hequal, hnotEqual, hlessThan, hatMost, hgreaterThan, hatLeast, hbetween, houtside, -⟩ :=
    hfits
  rw [ofDatum?, hfields]
  simp [fields, count_ofField hequal, count_ofField hnotEqual, count_ofField hlessThan,
    count_ofField hatMost, count_ofField hgreaterThan, count_ofField hatLeast,
    bounds_ofField hbetween, bounds_ofField houtside]

end RangeKeys

/-! ### Matchers -/

/-- A matcher entry is read back from its written form. -/
theorem MatcherEntry.ofDatum?_toJson (c : Conventions) (m : MatcherEntry) :
    ofDatum? c (.ofJson m.toJson) = some m := by
  cases m with
  | within set forward reverse => rfl
  | all names =>
    show (do return all (← strings? (.ofJson (.strings names)))) = some (all names)
    rw [strings?_ofJson]
    rfl
  | any names =>
    show (do return any (← strings? (.ofJson (.strings names)))) = some (any names)
    rw [strings?_ofJson]
    rfl
  | deny => rfl

/-! ### Stages -/

namespace StageEntry

theorem listToJson_eq_map (stages : List StageEntry) :
    toJson.listToJson stages = stages.map toJson := by
  induction stages with
  | nil => rfl
  | cons s rest ih => rw [toJson.listToJson, ih, List.map_cons]

theorem stages?_eq_mapM (c : Conventions) (items : List Datum) :
    stages? c items = items.mapM (ofDatum? c) := by
  induction items with
  | nil => rw [stages?]; rfl
  | cons d rest ih => rw [stages?, ih, List.mapM_cons]

/-- Stages are read back when each of them is. -/
theorem stageList?_ofJson {c : Conventions} {stages : List StageEntry}
    (h : ∀ s ∈ stages, ofDatum? c (.ofJson s.toJson) = some s) :
    stageList? c (.ofJson (.arr (toJson.listToJson stages))) = some stages := by
  rw [listToJson_eq_map, ofJson_arr, stageList?, stages?_eq_mapM, mapM_ofJson h]

theorem mode_ofText (c : Conventions) (mode : DegreeMode) :
    DegreeMode.ofDatum? c (str mode.text) = some mode := by
  cases mode <;> rfl

/-- The entries of a degree stage that stand before its range keys. -/
def degreeFront (matcher : String) (mode : DegreeMode) : List (String × Datum) :=
  [("kind", str "degree"), ("matcher", str matcher), ("mode", str mode.text)]

theorem ofJson_degree (matcher : String) (mode : DegreeMode) (range : RangeKeys) :
    Datum.ofJson (degree matcher mode range).toJson =
      table (degreeFront matcher mode ++ present range.fields) := by
  rw [toJson, ofJson_obj, List.map_cons, List.map_cons, List.map_cons,
    RangeKeys.members_eq_present]
  rfl

/-- A degree stage is read back with its range keys, none of which is a key of the stage. -/
theorem degree?_ofJson (matcher : String) (mode : DegreeMode) {range : RangeKeys}
    (hfits : range.Fits) :
    degree? (.ofJson (degree matcher mode range).toJson) = some (degree matcher mode range) := by
  have hnames : (["kind", "matcher", "mode"] ++ RangeKeys.names).Nodup := by decide
  have hkeys : ((degreeFront matcher mode).map Prod.fst ++ range.fields.map Prod.fst).Nodup :=
    hnames
  have hown : fields? .deferred ["matcher", "mode"]
      (table (degreeFront matcher mode ++ present range.fields)) =
      some [some (str matcher), some (str mode.text)] :=
    fields?_front hkeys .deferred (by simp [degreeFront])
  rw [ofJson_degree, degree?, hown]
  simp [required?, optional?, string?, mode_ofText, RangeKeys.ofDatum?_present _ hfits hkeys]

/-- A stage entry is read back from its written form. -/
theorem ofDatum?_toJson {s : StageEntry}
    (h : ∀ matcher mode range, Within (.degree matcher mode range) s → range.Fits)
    (c : Conventions) : ofDatum? c (.ofJson s.toJson) = some s := by
  induction s generalizing c with
  | nodeKinds kinds =>
    show (do return nodeKinds (← strings? (.ofJson (.strings kinds)))) = some (nodeKinds kinds)
    rw [strings?_ofJson]
    rfl
  | namePattern pattern => rfl
  | members ids =>
    show (do return members (← strings? (.ofJson (.strings ids)))) = some (members ids)
    rw [strings?_ofJson]
    rfl
  | degree matcher mode range => exact degree?_ofJson matcher mode (h matcher mode range .refl)
  | not stage ih =>
    have hstage : ofDatum? .deferred (.ofJson stage.toJson) = some stage :=
      ih (fun matcher mode range hin => h matcher mode range (.not hin)) .deferred
    show (ofDatum? .deferred (.ofJson stage.toJson)).map not = some (not stage)
    rw [hstage]
    rfl
  | all stages ih =>
    have hstages : ∀ s ∈ stages, ofDatum? .deferred (.ofJson s.toJson) = some s := fun s hs =>
      ih s hs (fun matcher mode range hin => h matcher mode range (.all hs hin)) .deferred
    show (stageList? .deferred (.ofJson (.arr (toJson.listToJson stages)))).map all =
      some (all stages)
    rw [stageList?_ofJson hstages]
    rfl
  | any stages ih =>
    have hstages : ∀ s ∈ stages, ofDatum? .deferred (.ofJson s.toJson) = some s := fun s hs =>
      ih s hs (fun matcher mode range hin => h matcher mode range (.any hs hin)) .deferred
    show (stageList? .deferred (.ofJson (.arr (toJson.listToJson stages)))).map any =
      some (any stages)
    rw [stageList?_ofJson hstages]
    rfl

end StageEntry

/-! ### Models, filters and documents -/

/-- A model entry is read back from its written form. -/
theorem ModelEntry.ofDatum?_toJson (c : Conventions) (m : ModelEntry) :
    ofDatum? c (.ofJson m.toJson) = some m := by
  have hnames : ["id", "node_kinds", "relations"].Nodup := by decide
  rw [ofDatum?, toJson, fields?_ofJson c hnames rfl]
  simp [required?, optional?, strings?_ofJson]

/-- A filter entry is read back when the counts of its degree stages fit. -/
theorem FilterEntry.ofDatum?_toJson (c : Conventions) {f : FilterEntry}
    (h : ∀ matcher mode range, f.Has (.degree matcher mode range) → range.Fits) :
    ofDatum? c (.ofJson f.toJson) = some f := by
  have hnames : ["name", "stages"].Nodup := by decide
  have hstages : ∀ s ∈ f.stages, StageEntry.ofDatum? c (.ofJson s.toJson) = some s :=
    fun s hs => StageEntry.ofDatum?_toJson
      (fun matcher mode range hin => h matcher mode range ⟨s, hs, hin⟩) c
  rw [ofDatum?, toJson, fields?_ofJson c hnames rfl]
  simp [required?, optional?, StageEntry.stageList?_ofJson hstages]

/-- A document entry is read back when its property values are stored values with finite numbers
only. -/
theorem DocumentEntry.ofDatum?_toJson (c : Conventions) {d : DocumentEntry}
    (h : ∀ e ∈ d.payload.entries, e.2.Stored ∧ e.2.Finite) :
    ofDatum? c (.ofJson (toJson d)) = some d := by
  have hnames : ["name", "matcher", "properties"].Nodup := by decide
  rw [ofDatum?, toJson, fields?_ofJson c hnames rfl]
  simp [required?, optional?, d.matcher.ofDatum?_toJson c, PropertyMap.ofDatum?_toJson h]

end Config

end RelGraph
