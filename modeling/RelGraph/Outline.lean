import RelGraph.Applicability
import RelGraph.Stage
import RelGraph.Text.Quoted

/-! Outlines: values as a developer looks at them. An outline names the form of a value and its
parts; `Outline.line` writes it on one line. Relation sets list identifiers only, and a set of node
identifiers shows its size. -/

namespace RelGraph

/-- The form of a value and its parts. -/
inductive Outline
  | word (w : String)
  | text (s : String)
  | list (items : List Outline)
  | group (items : List Outline)
  /-- A form whose parts have no names. -/
  | form (name : String) (part : Outline)
  /-- A form whose parts have names. -/
  | record (name : String) (fields : List (String × Outline))

namespace Outline

/-- The outline on one line. -/
def line : Outline → String
  | word w => w
  | text s => Text.quoteVisibly s
  | list items => "[" ++ ", ".intercalate (lines items) ++ "]"
  | group items => "\x7b" ++ ", ".intercalate (lines items) ++ "\x7d"
  | form name part => name ++ "(" ++ line part ++ ")"
  | record name fields => name ++ " \x7b " ++ ", ".intercalate (fieldLines fields) ++ " \x7d"
where
  lines : List Outline → List String
    | [] => []
    | o :: rest => line o :: lines rest
  fieldLines : List (String × Outline) → List String
    | [] => []
    | (key, o) :: rest => (key ++ ": " ++ line o) :: fieldLines rest

def flag (b : Bool) : Outline := word (if b then "true" else "false")

def number (n : Nat) : Outline := word (toString n)

def texts (l : List String) : Outline := list (l.map text)

def textSet (s : NameSet) : Outline := group (s.entries.map text)

end Outline

open Outline

def Relation.outline (r : Relation) : Outline :=
  record "Relation" [("id", text r.id), ("forward", text r.forward), ("reverse", text r.reverse)]

def RelationSet.outline (s : RelationSet) : Outline :=
  record "RelationSet" [("name", text s.name), ("relations", texts s.ids)]

def Matcher.outline : Matcher → Outline
  | .deny => word "DenyAll"
  | .within relations forward reverse =>
    record "Scoped"
      [("set", relations.outline), ("forward", flag forward), ("reverse", flag reverse)]
  | .allOf parts => form "AllOf" (list (outlines parts))
  | .anyOf parts => form "AnyOf" (list (outlines parts))
where
  outlines : List Matcher → List Outline
    | [] => []
    | m :: rest => m.outline :: outlines rest

def CountRange.outline : CountRange → Outline
  | .any => word "Any"
  | .equal n => form "Equal" (number n)
  | .notEqual n => form "NotEqual" (number n)
  | .lessThan n => form "LessThan" (number n)
  | .atMost n => form "AtMost" (number n)
  | .greaterThan n => form "GreaterThan" (number n)
  | .atLeast n => form "AtLeast" (number n)
  | .between min max => record "Between" [("min", number min), ("max", number max)]
  | .outside min max => record "Outside" [("min", number min), ("max", number max)]

def DegreeMode.outline : DegreeMode → Outline
  | .successors => word "Successors"
  | .predecessors => word "Predecessors"
  | .incident => word "Incident"

/-- What comes from outside cannot be looked into. -/
def Metric.outline : Metric → Outline
  | .degree matcher mode =>
    record "Degree" [("matcher", matcher.outline), ("mode", mode.outline)]
  | .custom _ => word "Custom(..)"

def Stage.outline : Stage → Outline
  | .kinds names => form "Kinds" (textSet names)
  | .namePattern pattern => form "NamePattern" (text pattern.text)
  | .members ids => form "Members" (number ids.size)
  | .count metric range =>
    record "Count" [("metric", metric.outline), ("predicate", range.outline)]
  | .not stage => form "Not" stage.outline
  | .allOf stages => form "AllOf" (list (outlines stages))
  | .anyOf stages => form "AnyOf" (list (outlines stages))
  | .nested _ _ | .custom _ => word "Custom(..)"
where
  outlines : List Stage → List Outline
    | [] => []
    | s :: rest => s.outline :: outlines rest

def Applicability.outline : Applicability → Outline
  | .any => word "Any"
  | .model id => form "Model" (text id)
  | .nodeKinds kinds => form "NodeKinds" (textSet kinds)
  | .relationKinds ids => form "RelationKinds" (textSet ids)
  | .allOf parts => form "AllOf" (list (outlines parts))
  | .anyOf parts => form "AnyOf" (list (outlines parts))
where
  outlines : List Applicability → List Outline
    | [] => []
    | a :: rest => a.outline :: outlines rest

end RelGraph
