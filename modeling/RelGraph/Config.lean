import RelGraph.Config.Entry

/-! Configurations: what an analysis project declares. Entries refer to each other by name, and
nothing is checked before the configuration is resolved. Named sets and matchers form listings, so
each of their names occurs once. -/

namespace RelGraph

namespace Config

/-- What applies to every command. -/
structure Settings where
  /-- How much is logged when neither the environment nor a flag says so. -/
  logLevel : Option String
  /-- Nodes are tested in parallel. -/
  parallel : Bool
  deriving DecidableEq, Repr

end Config

open Config

/-- A whole configuration. -/
structure Config where
  settings : Settings
  relations : List Relation.Descriptor
  /-- Names with relation identifiers. -/
  relationSets : Listing (Prod.fst : String × List String → String)
  matchers : Listing (Prod.fst : String × MatcherEntry → String)
  models : List ModelEntry
  filters : List FilterEntry
  documents : List DocumentEntry

namespace Config

open Datum

def Settings.default : Settings := ⟨none, false⟩

def empty : Config := ⟨.default, [], ∅, ∅, [], [], []⟩

/-- The filter of a name, as it is declared. -/
def filter? (c : Config) (name : String) : Option FilterEntry :=
  c.filters.find? (·.name == name)

/-! ### The written form -/

def Settings.ofDatum? (c : Conventions) (d : Datum) : Option Settings := do
  match ← fields? c ["log_level", "parallel"] d with
  | [level, parallel] =>
    return ⟨← optional? none (nullable? string?) level, ← optional? false bool? parallel⟩
  | _ => none

/-- Named entries, in ascending order of the names. -/
def named? {α : Type} (value : Datum → Option α) (d : Datum) :
    Option (Listing (Prod.fst : String × α → String)) :=
  (map? value d).map .ofAscending

/-- What is left out is empty. -/
def ofDatum? (c : Conventions) (d : Datum) : Option Config := do
  match ← fields? c
    ["settings", "relations", "relation_sets", "matchers", "models", "filters", "documents"] d with
  | [settings, relations, sets, matchers, models, filters, documents] =>
    return ⟨← optional? .default (Settings.ofDatum? c) settings,
      ← optional? [] (list? (Relation.Descriptor.ofDatum? c)) relations,
      ← optional? ∅ (named? strings?) sets,
      ← optional? ∅ (named? (MatcherEntry.ofDatum? c)) matchers,
      ← optional? [] (list? (ModelEntry.ofDatum? c)) models,
      ← optional? [] (list? (FilterEntry.ofDatum? c)) filters,
      ← optional? [] (list? (DocumentEntry.ofDatum? c)) documents⟩
  | _ => none

def ofJson (j : Json) : Except Problem Config :=
  match ofDatum? .json (.ofJson j) with
  | some c => .ok c
  | none => .error .invalidValue

def Settings.toJson (s : Settings) : Json :=
  .obj [("log_level", (s.logLevel.map .str).getD .null), ("parallel", s.parallel)]

/-- Named entries as an object with ascending keys. -/
def namedToJson {α : Type} (value : α → Json)
    (l : Listing (Prod.fst : String × α → String)) : Json :=
  .obj (sortMembers (l.entries.map fun e => (e.1, value e.2)))

/-- All fields are written, also the empty ones. -/
def toJson (c : Config) : Json :=
  .obj [("settings", c.settings.toJson),
    ("relations", .arr (c.relations.map Relation.Descriptor.toJson)),
    ("relation_sets", namedToJson Json.strings c.relationSets),
    ("matchers", namedToJson MatcherEntry.toJson c.matchers),
    ("models", .arr (c.models.map ModelEntry.toJson)),
    ("filters", .arr (c.filters.map FilterEntry.toJson)),
    ("documents", .arr (c.documents.map DocumentEntry.toJson))]

end Config

end RelGraph
