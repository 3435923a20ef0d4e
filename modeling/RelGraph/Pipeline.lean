import RelGraph.Stage

/-! Filter pipelines: named sequences of stages. The stages run in their order up to the first one
that excludes the node; a pipeline without stages includes every node. -/

namespace RelGraph

/-- What a pipeline says of a node. -/
structure Evaluation where
  included : Bool
  /-- How many stages ran before the pipeline stopped. -/
  stagesRun : Nat
  /-- The place of the stage that excluded the node. -/
  rejectedBy : Option Nat
  deriving DecidableEq, Repr

/-- A named sequence of stages. -/
structure Pipeline where
  name : String
  stages : List Stage

namespace Pipeline

def empty (name : String) : Pipeline := ⟨name, []⟩

/-- Appends a stage. -/
def push (p : Pipeline) (s : Stage) : Pipeline := { p with stages := p.stages ++ [s] }

/-- The pipeline as one stage of another. -/
def toStage (p : Pipeline) : Stage := .nested p.name p.stages

/-- Runs the stages from left to right and tells where that stopped. -/
def evaluate (p : Pipeline) (g : Graph) (id : String) : Evaluation :=
  match p.stages.findIdx? fun s => !s.includes g id with
  | some place => ⟨false, place + 1, some place⟩
  | none => ⟨true, p.stages.length, none⟩

def includes (p : Pipeline) (g : Graph) (id : String) : Bool := (p.evaluate g id).included

/-- The tags of the custom filters that one evaluation asks, in order. -/
def asked (p : Pipeline) (g : Graph) (id : String) : List Nat := (Stage.trace.all g id p.stages).2

/-- The nodes that pass, in the order of the graph. -/
def filter (p : Pipeline) (g : Graph) : List String := g.ids.filter (p.includes g)

/-- The nodes that pass, each tested in a task of its own. -/
def filterInParallel (p : Pipeline) (g : Graph) : List String :=
  let verdicts := g.ids.map fun id => Task.spawn fun _ => (id, p.includes g id)
  (verdicts.filter (·.get.2)).map (·.get.1)

end Pipeline

end RelGraph
