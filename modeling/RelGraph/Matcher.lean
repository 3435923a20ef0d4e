import RelGraph.Policy
import RelGraph.RelationSet

/-! Relation matchers: the traversal policies that can be configured. A matcher is closed, opens
the members of a set in the enabled directions, or combines other matchers. A combination without
parts is closed, so combining never opens anything by accident. -/

namespace RelGraph

/-- A configurable policy. -/
inductive Matcher
  | deny
  /-- Members of the set are open in the directions whose flag is set. -/
  | within (set : RelationSet) (forward reverse : Bool)
  /-- Open where there are parts and all of them are open. -/
  | allOf (parts : List Matcher)
  /-- Open where some part is open. -/
  | anyOf (parts : List Matcher)

namespace Matcher

/-- Whether the relation may be followed in the direction. -/
def opens (d : Direction) (r : Relation) : Matcher → Bool
  | .deny => false
  | within set forward reverse =>
    (match d with
      | .forward => forward
      | .reverse => reverse) && set.contains r
  | allOf parts => !parts.isEmpty && all parts
  | anyOf parts => any parts
where
  all : List Matcher → Bool
    | [] => true
    | m :: rest => opens d r m && all rest
  any : List Matcher → Bool
    | [] => false
    | m :: rest => opens d r m || any rest

def policy (m : Matcher) : Policy := ⟨fun d r => m.opens d r⟩

instance : Coe Matcher Policy := ⟨policy⟩

/-- Both must be open. Parts are added to a conjunction on the left; the empty one is closed and
stays as it is. -/
def and : Matcher → Matcher → Matcher
  | allOf [], _ => allOf []
  | allOf parts, other => allOf (parts ++ [other])
  | first, other => allOf [first, other]

/-- One must be open. Parts are added to a disjunction on the left. -/
def or : Matcher → Matcher → Matcher
  | anyOf parts, other => anyOf (parts ++ [other])
  | first, other => anyOf [first, other]

/-- The same tree over sets with the same members. -/
def same : Matcher → Matcher → Bool
  | deny, deny => true
  | within s f r, within s' f' r' => s.sameMembers s' && f == f' && r == r'
  | allOf ps, allOf qs => sameParts ps qs
  | anyOf ps, anyOf qs => sameParts ps qs
  | _, _ => false
where
  sameParts : List Matcher → List Matcher → Bool
    | [], [] => true
    | p :: ps, q :: qs => same p q && sameParts ps qs
    | _, _ => false

end Matcher

end RelGraph
