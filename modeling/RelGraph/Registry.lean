import RelGraph.Catalog
import RelGraph.Model

/-! Model registries. A registry holds one model per identifier and the relations that its models
contribute; two models may share a relation only if they agree on its labels. A model that is
refused leaves the registry as it was. The lists alone say what a registry holds; a registry that is
kept with a table of places beside them is `Registry.Tabled`, and it answers alike. -/

namespace RelGraph

/-- The registered models and the relations they contribute. -/
structure Registry where
  models : Listing Model.id
  relations : Catalog

namespace Registry

def empty : Registry := ⟨∅, ∅⟩

instance : EmptyCollection Registry := ⟨empty⟩

def get? (r : Registry) (id : String) : Option Model := r.models.find? id

def relation? (r : Registry) (id : String) : Option Relation := r.relations.get? id

/-- A relation of the model that is bound to other labels already. -/
def conflict? (r : Registry) (m : Model) : Option Relation :=
  m.relations.find? fun own => (r.relation? own.id).any fun old => !old.sameLabels own

/-- Registers a model unless its identifier is taken or one of its relations is bound to other
labels. -/
def register (r : Registry) (m : Model) : Except Fault Registry :=
  if r.models.contains m.id then .error (.duplicateModel m.id)
  else
    match r.conflict? m with
    | some own => .error (.modelRedefinesRelation m.id own.id)
    | none => .ok ⟨r.models.add m, m.relations.foldl Listing.add r.relations⟩

end Registry

end RelGraph
