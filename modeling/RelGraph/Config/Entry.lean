import RelGraph.Config.RangeKeys
import RelGraph.Record
import RelGraph.WrittenForm

/-! The entries of a configuration. They are plain data that refer to other entries by name. The
entries for matchers and stages carry their kind in their written form: a table has it under the
key `kind`, and a list begins with it. -/

namespace RelGraph.Config

open Datum

/-- The kind of an entry: its name or, where the conventions allow it, its place. -/
def kind? (c : Conventions) (kinds : List String) : Datum → Option String
  | .str kind => some kind
  | .nat place => if c.kindsByPlace then kinds[place]? else none
  | _ => none

/-! ### Matchers -/

/-- How a named matcher is made. -/
inductive MatcherEntry
  /-- Opens the members of the named set in the directions that are set. -/
  | within (set : String) (forward reverse : Bool)
  /-- Every named matcher must agree. -/
  | all (names : List String)
  /-- One named matcher is enough. -/
  | any (names : List String)
  | deny
  deriving DecidableEq, Repr

namespace MatcherEntry

/-- Reads what belongs to a kind. -/
def ofContent? (kind : String) (content : Datum) : Option MatcherEntry := do
  match kind with
  | "scoped" =>
    match ← fields? .deferred ["set", "forward", "reverse"] content with
    | [set, forward, reverse] =>
      return within (← required? string? set) (← optional? false bool? forward)
        (← optional? false bool? reverse)
    | _ => none
  | "all" =>
    match ← fields? .deferred ["of"] content with
    | [names] => return all (← required? strings? names)
    | _ => none
  | "any" =>
    match ← fields? .deferred ["of"] content with
    | [names] => return any (← required? strings? names)
    | _ => none
  | "deny" =>
    match content with
    | .table _ | .list [] => return deny
    | _ => none
  | _ => none

def kindNames : List String := ["scoped", "all", "any", "deny"]

def ofDatum? (c : Conventions) : Datum → Option MatcherEntry
  | .table entries => do
    ofContent? (← kind? c kindNames (← lookUp? "kind" entries)) (.table entries)
  | .list (first :: content) => do ofContent? (← kind? c kindNames first) (.list content)
  | _ => none

def toJson : MatcherEntry → Json
  | within set forward reverse =>
    .obj [("kind", "scoped"), ("set", set), ("forward", forward), ("reverse", reverse)]
  | all names => .obj [("kind", "all"), ("of", .strings names)]
  | any names => .obj [("kind", "any"), ("of", .strings names)]
  | deny => .obj [("kind", "deny")]

/-- The matchers that the entry refers to. -/
def references : MatcherEntry → List String
  | all names | any names => names
  | within _ _ _ | deny => []

end MatcherEntry

/-! ### Stages -/

/-- How a stage of a filter is made. -/
inductive StageEntry
  | nodeKinds (kinds : List String)
  | namePattern (pattern : String)
  | members (ids : List String)
  | degree (matcher : String) (mode : DegreeMode) (range : RangeKeys)
  | not (stage : StageEntry)
  | all (stages : List StageEntry)
  | any (stages : List StageEntry)

namespace StageEntry

/-- Reads a degree stage, whose range keys stand beside its other fields. -/
def degree? (content : Datum) : Option StageEntry := do
  match ← fields? .deferred ["matcher", "mode"] content with
  | [matcher, mode] =>
    return degree (← required? string? matcher)
      (← optional? .incident (DegreeMode.ofDatum? .deferred) mode)
      (← RangeKeys.ofDatum? .deferred content)
  | _ => none

/-- Reads what belongs to a kind of stage that has no stages in it. -/
def leaf? (kind : String) (content : Datum) : Option StageEntry := do
  match kind with
  | "node-kinds" =>
    match ← fields? .deferred ["kinds"] content with
    | [kinds] => return nodeKinds (← required? strings? kinds)
    | _ => none
  | "name-pattern" =>
    match ← fields? .deferred ["pattern"] content with
    | [pattern] => return namePattern (← required? string? pattern)
    | _ => none
  | "members" =>
    match ← fields? .deferred ["ids"] content with
    | [ids] => return members (← required? strings? ids)
    | _ => none
  | "degree" =>
    match content with
    | .table entries => degree? (.table entries)
    | _ => none
  | _ => none

def kindNames : List String :=
  ["node-kinds", "name-pattern", "members", "degree", "not", "all", "any"]

mutual

/-- Reads a stage; the stages in it are deferred until its kind is known. The tables of a
configuration have distinct keys. -/
def ofDatum? (c : Conventions) : Datum → Option StageEntry
  | .table entries =>
    match (lookUp? "kind" entries).bind (kind? c kindNames) with
    | some kind =>
      if kind == "not" then (stageIn? entries).map not
      else if kind == "all" then (stagesIn? entries).map all
      else if kind == "any" then (stagesIn? entries).map any
      else leaf? kind (.table entries)
    | none => none
  | .list (first :: content) =>
    match kind? c kindNames first with
    | some kind =>
      if kind == "not" then (onlyStage? content).map not
      else if kind == "all" then (onlyStages? content).map all
      else if kind == "any" then (onlyStages? content).map any
      else leaf? kind (.list content)
    | none => none
  | _ => none

/-- The stage under the key `stage`. -/
def stageIn? : List (String × Datum) → Option StageEntry
  | [] => none
  | (key, d) :: rest => if key == "stage" then ofDatum? .deferred d else stageIn? rest

/-- The stages under the key `stages`. -/
def stagesIn? : List (String × Datum) → Option (List StageEntry)
  | [] => none
  | (key, d) :: rest => if key == "stages" then stageList? .deferred d else stagesIn? rest

def onlyStage? : List Datum → Option StageEntry
  | [d] => ofDatum? .deferred d
  | _ => none

def onlyStages? : List Datum → Option (List StageEntry)
  | [d] => stageList? .deferred d
  | _ => none

def stageList? (c : Conventions) : Datum → Option (List StageEntry)
  | .list items => stages? c items
  | _ => none

def stages? (c : Conventions) : List Datum → Option (List StageEntry)
  | [] => some []
  | d :: rest => do return (← ofDatum? c d) :: (← stages? c rest)

end

def toJson : StageEntry → Json
  | nodeKinds kinds => .obj [("kind", "node-kinds"), ("kinds", .strings kinds)]
  | namePattern pattern => .obj [("kind", "name-pattern"), ("pattern", pattern)]
  | members ids => .obj [("kind", "members"), ("ids", .strings ids)]
  | degree matcher mode range =>
    .obj (("kind", "degree") :: ("matcher", matcher) :: ("mode", mode.text) :: range.members)
  | not stage => .obj [("kind", "not"), ("stage", toJson stage)]
  | all stages => .obj [("kind", "all"), ("stages", .arr (listToJson stages))]
  | any stages => .obj [("kind", "any"), ("stages", .arr (listToJson stages))]
where
  listToJson : List StageEntry → List Json
    | [] => []
    | s :: rest => toJson s :: listToJson rest

end StageEntry

/-! ### Models and filters -/

/-- A dependency model; its relations are named by their identifiers. -/
structure ModelEntry where
  id : String
  nodeKinds : List String
  relations : List String
  deriving DecidableEq, Repr

namespace ModelEntry

def ofDatum? (c : Conventions) (d : Datum) : Option ModelEntry := do
  match ← fields? c ["id", "node_kinds", "relations"] d with
  | [id, kinds, relations] =>
    return ⟨← required? string? id, ← optional? [] strings? kinds,
      ← optional? [] strings? relations⟩
  | _ => none

def toJson (m : ModelEntry) : Json :=
  .obj [("id", m.id), ("node_kinds", .strings m.nodeKinds), ("relations", .strings m.relations)]

end ModelEntry

/-- A named sequence of stages. -/
structure FilterEntry where
  name : String
  stages : List StageEntry

namespace FilterEntry

def ofDatum? (c : Conventions) (d : Datum) : Option FilterEntry := do
  match ← fields? c ["name", "stages"] d with
  | [name, stages] =>
    return ⟨← required? string? name, ← optional? [] (StageEntry.stageList? c) stages⟩
  | _ => none

def toJson (f : FilterEntry) : Json :=
  .obj [("name", f.name), ("stages", .arr (StageEntry.toJson.listToJson f.stages))]

end FilterEntry

/-! ### Documents -/

/-- An analysis document whose payload is a property map. -/
abbrev DocumentEntry := Document.Descriptor PropertyMap

namespace DocumentEntry

/-- Properties that are left out are none. -/
def ofDatum? (c : Conventions) (d : Datum) : Option DocumentEntry := do
  match ← fields? c ["name", "matcher", "properties"] d with
  | [name, matcher, properties] =>
    return ⟨← required? string? name, ← required? (Applicability.ofDatum? c) matcher,
      ← optional? ∅ PropertyMap.ofDatum? properties⟩
  | _ => none

def toJson (d : DocumentEntry) : Json :=
  .obj [("name", d.name), ("matcher", d.matcher.toJson), ("properties", d.payload.toJson)]

end DocumentEntry

end RelGraph.Config
