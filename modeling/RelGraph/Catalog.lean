import RelGraph.Keyed
import RelGraph.Relation

/-! Catalogs: tables from relation identifiers to relations. A catalog binds each identifier to one
pair of labels and lists its relations in the order of their first insertion. -/

namespace RelGraph

/-- Relations with distinct identifiers, in the order of their insertion. -/
abbrev Catalog := Listing Relation.id

namespace Catalog

def get? (c : Catalog) (id : String) : Option Relation := c.find? id

/-- Adds a relation. One that is there with the same labels changes nothing; one that is there with
other labels is refused. -/
def insert (c : Catalog) (r : Relation) : Except Fault Catalog :=
  match c.get? r.id with
  | none => .ok (c.add r)
  | some old =>
    if old.sameLabels r then .ok c
    else .error (.relationRedefined r.id old.forward old.reverse)

/-- Adds the relations in turn and stops at the first refusal. -/
def ofRelations (l : List Relation) : Except Fault Catalog := l.foldlM insert ∅

/-- The relation bound to an identifier that has to be there. -/
def resolve (c : Catalog) (id : String) : Except Fault Relation :=
  if Text.isBlank id then .error .missingRelationId
  else
    match c.get? id with
    | some r => .ok r
    | none => .error (.unknownRelation id)

/-- The relations bound to the identifiers, or the first fault. -/
def resolveAll (c : Catalog) (ids : List String) : Except Fault (List Relation) :=
  ids.mapM c.resolve

end Catalog

end RelGraph
