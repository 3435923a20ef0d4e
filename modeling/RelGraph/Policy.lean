import RelGraph.Relation

/-! Traversal policies: which relations may be followed in which direction. Anything that answers
this question is a policy, so walks and degrees are stated for all of them. -/

namespace RelGraph

/-- The two ways along an edge: from source to target, and back. -/
inductive Direction
  | forward | reverse
  deriving DecidableEq, Repr

namespace Direction

def opposite : Direction → Direction
  | forward => reverse
  | reverse => forward

end Direction

/-- Says for each relation and direction whether it may be followed. -/
structure Policy where
  opens : Direction → Relation → Bool

namespace Policy

/-- Nothing may be followed. -/
def closed : Policy := ⟨fun _ _ => false⟩

/-- Everything may be followed in one direction, nothing in the other. -/
def only (d : Direction) : Policy := ⟨fun e _ => e == d⟩

def allowsForward (p : Policy) (r : Relation) : Bool := p.opens .forward r

def allowsReverse (p : Policy) (r : Relation) : Bool := p.opens .reverse r

/-- Some direction may be followed. -/
def accepts (p : Policy) (r : Relation) : Bool := p.allowsForward r || p.allowsReverse r

/-- The policy with the directions exchanged. -/
def opposite (p : Policy) : Policy := ⟨fun d r => p.opens d.opposite r⟩

end Policy

end RelGraph
