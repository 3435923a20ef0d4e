import RelGraph.Fault
import RelGraph.Text.Blank

/-! Relations: the directed kinds of edges of a dependency graph, such as "calls" or "contains".
A relation is known by its identifier alone; its two labels say how it reads from source to target
and from target to source, and decide nothing. -/

namespace RelGraph

/-- A directed kind of edge. Its identifier is not blank. -/
structure Relation where
  id : String
  forward : String
  reverse : String
  id_not_blank : Text.isBlank id = false
  deriving DecidableEq

namespace Relation

/-- Makes a relation unless the identifier is blank. -/
def make (id forward reverse : String) : Except Fault Relation :=
  if h : Text.isBlank id = false then .ok ⟨id, forward, reverse, h⟩ else .error .blankRelationId

/-- Two relations are the same kind of edge when they have one identifier. -/
def sameKind (r s : Relation) : Bool := r.id == s.id

/-- Relations are ordered by the code points of their identifiers. -/
def order (r s : Relation) : Ordering := compare r.id s.id

def sameLabels (r s : Relation) : Bool := r.forward == s.forward && r.reverse == s.reverse

theorem ext_of_sameLabels {r s : Relation} (hid : r.id = s.id) (h : r.sameLabels s = true) :
    r = s := by
  simp only [sameLabels, Bool.and_eq_true, beq_iff_eq] at h
  cases r; cases s; simp_all

end Relation

/-- A relation as it is written down; nothing is checked yet. -/
structure Relation.Descriptor where
  id : String
  forward : String
  reverse : String
  deriving DecidableEq, Repr

namespace Relation

def descriptor (r : Relation) : Descriptor := ⟨r.id, r.forward, r.reverse⟩

def Descriptor.build (d : Descriptor) : Except Fault Relation := make d.id d.forward d.reverse

@[simp] theorem build_descriptor (r : Relation) : r.descriptor.build = .ok r := by
  simp [descriptor, Descriptor.build, make, r.id_not_blank]

end Relation

end RelGraph
