import RelGraph.Config
import RelGraph.Config.Variable
import RelGraph.Toml

/-! Layers: a configuration that is put together from a file and the variables of the environment.
Later layers win. Tables are laid over each other key by key, and everything else is replaced as a
whole. In a file a value may be wrapped in a table. -/

namespace RelGraph.Config

/-! ### Wrapped values -/

/-- The key of a wrapped value. -/
def wrapKey : String := "___figment_value_value"

/-- The key of the mark that tells where a value comes from. A file cannot give it. -/
def markKey : String := "___figment_value_id"

mutual

/-- A datum with every wrapped value in the place of the table around it. What else is in that table
counts for nothing, but it may not have a mark. -/
def unwrap? : Datum → Option Datum
  | .list items => do return .list (← unwrapItems? items)
  | .table entries => do
    let entries ← unwrapEntries? entries
    if (Datum.lookUp? markKey entries).isSome then none
    else return (Datum.lookUp? wrapKey entries).getD (.table entries)
  | d => some d

def unwrapItems? : List Datum → Option (List Datum)
  | [] => some []
  | d :: rest => do return (← unwrap? d) :: (← unwrapItems? rest)

def unwrapEntries? : List (String × Datum) → Option (List (String × Datum))
  | [] => some []
  | (key, d) :: rest => do return (key, ← unwrap? d) :: (← unwrapEntries? rest)

end

/-- The layer of a file: the table of its text, which is not wrapped itself. -/
def fileLayer? (text : String) : Option Datum := do
  match ← Toml.read? text with
  | .table entries => return .table (← unwrapEntries? entries)
  | d => return d

/-! ### Laying over -/

mutual

/-- One datum laid over another. -/
def overlay (base : Datum) : Datum → Datum
  | .table new =>
    match base with
    | .table entries => .table (overlayEntries entries new)
    | _ => .table new
  | new => new

/-- Entries in ascending order of their keys with others laid over them. -/
def overlayEntries (entries : List (String × Datum)) :
    List (String × Datum) → List (String × Datum)
  | [] => entries
  | (key, d) :: rest =>
    let laid := match Datum.lookUp? key entries with
      | some old => overlay old d
      | none => d
    overlayEntries (Ascending.insertEntry Prod.fst (key, laid) entries) rest

end

/-- The layer that the variables give, each laid over those before it. -/
def variableLayer (stem : String) (environment : List (String × String)) : Datum :=
  (environment.filterMap (Variable.part? stem)).foldl overlay (.table [])

/-! ### Reading -/

def ofLayered (d : Datum) : Except Problem Config :=
  match ofDatum? .layered d with
  | some c => .ok c
  | none => .error .unreadable

/-- Reads a TOML text alone. -/
def ofToml (text : String) : Except Problem Config :=
  match fileLayer? text with
  | some d => ofLayered d
  | none => .error .unreadable

/-- Reads a TOML text with the layer of the variables over it. -/
def ofLayers (stem : String) (environment : List (String × String)) (text : String) :
    Except Problem Config :=
  match fileLayer? text with
  | some d => ofLayered (overlay d (variableLayer stem environment))
  | none => .error .unreadable

end RelGraph.Config
