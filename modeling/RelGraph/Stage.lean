import RelGraph.CountRange
import RelGraph.Keyed
import RelGraph.Matcher
import RelGraph.Pattern
import RelGraph.Walk

/-! Node stages: the tests that a filter pipeline is made of. A node that is not in the graph fails
the tests of kind and name. A conjunction without parts includes everything and a disjunction
without parts nothing. `Stage.includes` decides; `Stage.trace` also tells which custom filters are
asked on the way. -/

namespace RelGraph

/-- A filter that is supplied from outside. The tag tells such filters apart in a trace. -/
structure CustomFilter where
  tag : Nat
  includes : String → Graph → Bool

/-- A number that is measured at a node. -/
inductive Metric
  | degree (matcher : Matcher) (mode : DegreeMode)
  | custom (measure : String → Graph → Nat)

def Metric.measure (g : Graph) (id : String) : Metric → Nat
  | degree matcher mode => g.degree matcher.policy mode id
  | custom measure => measure id g

/-- A test on the nodes of a graph. -/
inductive Stage
  | kinds (kinds : NameSet)
  | namePattern (pattern : Pattern)
  | members (ids : NameSet)
  | count (metric : Metric) (range : CountRange)
  | not (stage : Stage)
  | allOf (stages : List Stage)
  | anyOf (stages : List Stage)
  /-- A whole pipeline that is used as one test. -/
  | nested (pipeline : String) (stages : List Stage)
  | custom (filter : CustomFilter)

namespace Stage

def ofKinds (names : List String) : Stage := kinds (NameSet.ofNames names)

def ofMembers (ids : List String) : Stage := members (NameSet.ofNames ids)

/-- Counts the edges at the node that the matcher and the mode select. -/
def degree (matcher : Matcher) (mode : DegreeMode) (range : CountRange) : Stage :=
  count (.degree matcher mode) range

/-- The short name of the test. -/
def label : Stage → String
  | kinds _ => "kinds"
  | namePattern _ => "name-pattern"
  | members _ => "members"
  | count _ _ => "count"
  | not _ => "not"
  | allOf _ => "all-of"
  | anyOf _ => "any-of"
  | nested _ _ | custom _ => "custom"

/-- Whether the node passes the test. -/
def includes (g : Graph) (id : String) : Stage → Bool
  | kinds names => (g.node? id).any fun n => names.contains n.kind
  | namePattern pattern => (g.node? id).any fun n => pattern.matchesName n.name
  | members ids => ids.contains id
  | count metric range => range.includes (metric.measure g id)
  | not stage => !includes g id stage
  | allOf stages => all stages
  | anyOf stages => any stages
  | nested _ stages => all stages
  | custom filter => filter.includes id g
where
  all : List Stage → Bool
    | [] => true
    | s :: rest => includes g id s && all rest
  any : List Stage → Bool
    | [] => false
    | s :: rest => includes g id s || any rest

/-- The verdict of the test and the tags of the custom filters that are asked for it, in order. A
conjunction stops at the first part that excludes the node, and a disjunction at the first that
includes it. -/
def trace (g : Graph) (id : String) : Stage → Bool × List Nat
  | not stage =>
    let (verdict, asked) := trace g id stage
    (!verdict, asked)
  | allOf stages => all stages
  | anyOf stages => any stages
  | nested _ stages => all stages
  | custom filter => (filter.includes id g, [filter.tag])
  | kinds names => (includes g id (kinds names), [])
  | namePattern pattern => (includes g id (namePattern pattern), [])
  | members ids => (includes g id (members ids), [])
  | count metric range => (includes g id (count metric range), [])
where
  all : List Stage → Bool × List Nat
    | [] => (true, [])
    | s :: rest =>
      match trace g id s with
      | (false, asked) => (false, asked)
      | (true, asked) =>
        let (verdict, more) := all rest
        (verdict, asked ++ more)
  any : List Stage → Bool × List Nat
    | [] => (false, [])
    | s :: rest =>
      match trace g id s with
      | (true, asked) => (true, asked)
      | (false, asked) =>
        let (verdict, more) := any rest
        (verdict, asked ++ more)

end Stage

end RelGraph
