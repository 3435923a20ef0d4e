import RelGraph.CountRange
import RelGraph.Datum
import RelGraph.Relation
import RelGraph.Walk

/-! The written forms of relations, directions, degree modes and count ranges. A choice without
content is its name, and one with content an object with one key. -/

namespace RelGraph

open Datum

/-- Reads three texts, as a table or as a list. -/
def Relation.Descriptor.ofDatum? (c : Conventions) (d : Datum) : Option Descriptor := do
  match ← fields? c ["id", "forward", "reverse"] d with
  | [id, forward, reverse] =>
    return ⟨← required? string? id, ← required? string? forward,
      ← required? string? reverse⟩
  | _ => none

def Relation.Descriptor.toJson (r : Descriptor) : Json :=
  .obj [("id", r.id), ("forward", r.forward), ("reverse", r.reverse)]

def Direction.names : List (String × Direction) := [("forward", .forward), ("reverse", .reverse)]

def DegreeMode.names : List (String × DegreeMode) :=
  [("successors", .successors), ("predecessors", .predecessors), ("incident", .incident)]

def Direction.text : Direction → String
  | .forward => "forward"
  | .reverse => "reverse"

def DegreeMode.text : DegreeMode → String
  | .successors => "successors"
  | .predecessors => "predecessors"
  | .incident => "incident"

def Direction.ofDatum? (c : Conventions) : Datum → Option Direction := choice? c names

def DegreeMode.ofDatum? (c : Conventions) : Datum → Option DegreeMode := choice? c names

namespace CountRange

/-- Two bounds as an object; a list is not enough here. -/
def bounds? (make : Nat → Nat → CountRange) : Datum → Option CountRange
  | .table entries => do
    match ← fields? .json ["min", "max"] (.table entries) with
    | [min, max] => return make (← required? count? min) (← required? count? max)
    | _ => none
  | _ => none

/-- Reads the content after the name of a range. -/
def ofChoice? (name : String) (content : Datum) : Option CountRange :=
  match name with
  | "any" => if isUnit .json content then some any else none
  | "equal" => (count? content).map equal
  | "not_equal" => (count? content).map notEqual
  | "less_than" => (count? content).map lessThan
  | "at_most" => (count? content).map atMost
  | "greater_than" => (count? content).map greaterThan
  | "at_least" => (count? content).map atLeast
  | "between" => bounds? between content
  | "outside" => bounds? outside content
  | _ => none

def ofDatum? : Datum → Option CountRange
  | .str name => if name == "any" then some any else none
  | .table [(name, content)] => ofChoice? name content
  | _ => none

def boundsToJson (min max : Nat) : Json := .obj [("min", .ofNat min), ("max", .ofNat max)]

def toJson : CountRange → Json
  | any => "any"
  | equal n => .obj [("equal", .ofNat n)]
  | notEqual n => .obj [("not_equal", .ofNat n)]
  | lessThan n => .obj [("less_than", .ofNat n)]
  | atMost n => .obj [("at_most", .ofNat n)]
  | greaterThan n => .obj [("greater_than", .ofNat n)]
  | atLeast n => .obj [("at_least", .ofNat n)]
  | between min max => .obj [("between", boundsToJson min max)]
  | outside min max => .obj [("outside", boundsToJson min max)]

end CountRange

end RelGraph
