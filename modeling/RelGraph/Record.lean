import RelGraph.Document
import RelGraph.Json.Printer
import RelGraph.Json.Reader
import RelGraph.RelationSet

/-! Records: relation sets and analysis documents as they are stored. A record is an object with
one key, the tag that tells what it holds. -/

namespace RelGraph

/-- A document as it is stored; nothing is checked yet. -/
structure Document.Descriptor (π : Type) where
  name : String
  matcher : Applicability
  payload : π

namespace Document

variable {π : Type}

def describe (d : Document π) : Descriptor π := ⟨d.name, d.matcher, d.payload⟩

def Descriptor.build [Payload π] (d : Descriptor π) : Except Fault (Document π) :=
  make d.name d.matcher d.payload

end Document

/-- What a record holds. -/
inductive Record (π : Type)
  | relationSet (d : RelationSet.Descriptor)
  | document (d : Document.Descriptor π)

namespace Record

open Datum

variable {π : Type} [Payload π]

def relationSetTag : String := "rel-set-info"

def documentTag : String := "analysis-doc-info"

def tag : Record π → String
  | relationSet _ => relationSetTag
  | document _ => documentTag

/-! ### The written form -/

def relationSetToJson (d : RelationSet.Descriptor) : Json :=
  .obj [("name", d.name), ("relations", .strings d.relations)]

def documentToJson (d : Document.Descriptor π) : Json :=
  .obj [("name", d.name), ("matcher", d.matcher.toJson), ("payload", Payload.toJson d.payload)]

def toJson : Record π → Json
  | relationSet d => .obj [(relationSetTag, relationSetToJson d)]
  | document d => .obj [(documentTag, documentToJson d)]

/-- Identifiers that are left out are none. -/
def relationSet? (d : Datum) : Option RelationSet.Descriptor := do
  match ← fields? .json ["name", "relations"] d with
  | [name, relations] =>
    return ⟨← required? string? name, ← optional? [] strings? relations⟩
  | _ => none

def document? (d : Datum) : Option (Document.Descriptor π) := do
  match ← fields? .json ["name", "matcher", "payload"] d with
  | [name, matcher, payload] =>
    return ⟨← required? string? name, ← required? (Applicability.ofDatum? .json) matcher,
      ← required? Payload.ofDatum? payload⟩
  | _ => none

def ofDatum? : Datum → Option (Record π)
  | .table [(key, content)] =>
    if key == relationSetTag then (relationSet? content).map relationSet
    else if key == documentTag then (document? content).map document
    else none
  | _ => none

def toText (r : Record π) : String := r.toJson.pretty

def ofText (text : String) : Except Fault (Record π) :=
  match (Json.Reader.read? text).bind ofDatum? with
  | some r => .ok r
  | none => .error .unreadableRecord

end Record

end RelGraph
