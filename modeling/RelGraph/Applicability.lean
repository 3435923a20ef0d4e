import RelGraph.Datum
import RelGraph.Model

/-! Applicability: to which dependency models a document applies. It depends on nothing but the
identifier, the node kinds and the relation identifiers of a model. The written form of a choice
with content is an object with one key, and that of the choice without content is its name. -/

namespace RelGraph

/-- Says to which models something applies. -/
inductive Applicability
  | any
  | model (id : String)
  /-- The model has every listed node kind. -/
  | nodeKinds (kinds : NameSet)
  /-- The model has every listed relation. -/
  | relationKinds (ids : NameSet)
  /-- Every part applies, and there is one. -/
  | allOf (parts : List Applicability)
  /-- Some part applies. -/
  | anyOf (parts : List Applicability)

namespace Applicability

def appliesTo (m : Model) : Applicability → Bool
  | any => true
  | model id => m.id == id
  | nodeKinds kinds => kinds.entries.all m.hasNodeKind
  | relationKinds ids => ids.entries.all m.hasRelation
  | allOf parts => !parts.isEmpty && every parts
  | anyOf parts => some parts
where
  every : List Applicability → Bool
    | [] => true
    | a :: rest => appliesTo m a && every rest
  some : List Applicability → Bool
    | [] => false
    | a :: rest => appliesTo m a || some rest

/-! ### The written form -/

def toJson : Applicability → Json
  | any => "any"
  | model id => .obj [("model", id)]
  | nodeKinds kinds => .obj [("node_kinds", .strings kinds.entries)]
  | relationKinds ids => .obj [("relation_kinds", .strings ids.entries)]
  | allOf parts => .obj [("all_of", .arr (partsToJson parts))]
  | anyOf parts => .obj [("any_of", .arr (partsToJson parts))]
where
  partsToJson : List Applicability → List Json
    | [] => []
    | a :: rest => toJson a :: partsToJson rest

mutual

/-- Reads the written form. -/
def ofDatum? (c : Datum.Conventions) : Datum → Option Applicability
  | .str s => if s == "any" then some any else none
  | .table ((key, content) :: rest) =>
    if rest.isEmpty || c.looseChoices then ofChoice? c key content else none
  | _ => none

/-- Reads the content after the name of a choice. -/
def ofChoice? (c : Datum.Conventions) (key : String) : Datum → Option Applicability
  | .str s => if key == "model" then some (model s) else none
  | .list items =>
    if key == "node_kinds" then
      (items.mapM Datum.string?).map fun names => nodeKinds (.ofNames names)
    else if key == "relation_kinds" then
      (items.mapM Datum.string?).map fun names => relationKinds (.ofNames names)
    else if key == "all_of" then (ofParts? c items).map allOf
    else if key == "any_of" then (ofParts? c items).map anyOf
    else none
  | d => if key == "any" && Datum.isUnit c d then some any else none

def ofParts? (c : Datum.Conventions) : List Datum → Option (List Applicability)
  | [] => some []
  | d :: rest => do return (← ofDatum? c d) :: (← ofParts? c rest)

end

end Applicability

end RelGraph
