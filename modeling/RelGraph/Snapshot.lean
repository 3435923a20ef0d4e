import RelGraph.Graph
import RelGraph.Json.Printer
import RelGraph.Json.Reader

/-! Graph snapshots: graphs as they are stored. A snapshot lists nodes and edges, the edges with
the identifiers of their relations, and becomes a graph again by way of a catalog. -/

namespace RelGraph

/-- An edge with the identifier of its relation. -/
structure EdgeRecord where
  source : String
  target : String
  relation : String
  deriving DecidableEq, Repr

/-- The stored form of a graph. -/
structure Snapshot where
  nodes : List Node
  edges : List EdgeRecord
  deriving DecidableEq, Repr

def Edge.record (e : Edge) : EdgeRecord := ⟨e.source, e.target, e.relation.id⟩

def Graph.snapshot (g : Graph) : Snapshot := ⟨g.nodes, g.edges.map Edge.record⟩

namespace Snapshot

/-- Adds an edge; its relation is looked up before its ends. -/
def addRecord (c : Catalog) (g : Graph) (e : EdgeRecord) : Except Fault Graph := do
  g.addEdge e.source e.target (← Catalog.resolve c e.relation)

/-- The graph that the snapshot stores: all nodes first, then the edges in their order. -/
def resolve (s : Snapshot) (c : Catalog) : Except Fault Graph :=
  s.edges.foldlM (addRecord c) (s.nodes.foldl Graph.addNode ∅)

/-! ### The written form -/

def nodeToJson (n : Node) : Json := .obj [("id", n.id), ("kind", n.kind), ("name", n.name)]

def recordToJson (e : EdgeRecord) : Json :=
  .obj [("source", e.source), ("target", e.target), ("relation", e.relation)]

def toJson (s : Snapshot) : Json :=
  .obj [("nodes", .arr (s.nodes.map nodeToJson)), ("edges", .arr (s.edges.map recordToJson))]

open Datum

/-- Reads a record of three texts. -/
def threeTexts? {α : Type} (a b c : String) (make : String → String → String → α) (d : Datum) :
    Option α := do
  match ← fields? .json [a, b, c] d with
  | [x, y, z] =>
    return make (← required? string? x) (← required? string? y) (← required? string? z)
  | _ => none

def node? : Datum → Option Node := threeTexts? "id" "kind" "name" Node.mk

def record? : Datum → Option EdgeRecord := threeTexts? "source" "target" "relation" EdgeRecord.mk

/-- Lists that are left out are empty. -/
def ofDatum? (d : Datum) : Option Snapshot := do
  match ← fields? .json ["nodes", "edges"] d with
  | [nodes, edges] =>
    return ⟨← optional? [] (list? node?) nodes, ← optional? [] (list? record?) edges⟩
  | _ => none

def toText (s : Snapshot) : String := s.toJson.pretty

def ofText (text : String) : Except Fault Snapshot :=
  match (Json.Reader.read? text).bind ofDatum? with
  | some s => .ok s
  | none => .error .unreadableGraph

end Snapshot

end RelGraph
