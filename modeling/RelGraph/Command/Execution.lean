import RelGraph.Command.Console
import RelGraph.Command.Invocation
import RelGraph.Config.Discovery
import RelGraph.Config.Resolution
import RelGraph.Record
import RelGraph.Snapshot

/-! Execution: what an invocation does. Results are written to the console as they arise; a failure
ends the execution and takes nothing back that was written before. Notes are dropped when the
invocation is quiet, except for the failure and its hint. -/

namespace RelGraph.Command

open Config (Problem Resolved Discovery)

/-! ### Failures -/

/-- Why an execution failed. -/
inductive Failure
  /-- The configuration cannot be loaded; the path is that of a file that was asked for. -/
  | notLoaded (path : Option String) (problem : Problem)
  | invalidConfig (problem : Problem)
  /-- Something that the configuration does not name. -/
  | notConfigured (problem : Problem)
  | unknownModel (id : String)
  | unknownPipeline (name : String)
  | unreadableGraph (path : String)
  | invalidGraph (path : String) (fault : Fault)
  deriving DecidableEq, Repr

namespace Failure

/-- What went wrong, and the causes below it. -/
def causes : Failure → List String
  | notLoaded none problem | notConfigured problem => problem.causes
  | notLoaded (some path) problem => ("failed to load " ++ path) :: problem.causes
  | invalidConfig problem => "configuration is invalid" :: problem.causes
  | unknownModel id => ["unknown model '" ++ id ++ "'"]
  | unknownPipeline name => ["unknown filter pipeline '" ++ name ++ "'"]
  | unreadableGraph path => ["failed to read graph " ++ path, Fault.readerDetail]
  | invalidGraph path fault => ["failed to load graph " ++ path, fault.message]

def hint? : Failure → Option String
  | notLoaded _ problem | invalidConfig problem | notConfigured problem => problem.hint?
  | unknownModel _ | unknownPipeline _ | unreadableGraph _ | invalidGraph _ _ => none

/-- The notes about a failure: its causes on one line, then its hint. -/
def notes (f : Failure) : List Note :=
  ⟨.error, ": ".intercalate f.causes⟩ :: (f.hint?.map (⟨.hint, ·⟩)).toList

end Failure

/-! ### Sessions -/

/-- A computation that writes to the console and may fail. -/
abbrev Session := ExceptT Failure (StateM Console)

/-- Writes a line of results. -/
def say (line : String) : Session Unit :=
  modify fun c => { c with out := c.out ++ [line] }

def sayAll (lines : List String) : Session Unit :=
  modify fun c => { c with out := c.out ++ lines }

def sayJson (j : Json) : Session Unit := say j.pretty

/-- Writes notes unless the invocation is quiet. -/
def note (quiet : Bool) (notes : List Note) : Session Unit :=
  if quiet then pure () else modify fun c => { c with notes := c.notes ++ notes }

/-! ### Surroundings -/

/-- What an execution finds around it. -/
structure Surroundings where
  /-- The current directory. -/
  home : String
  files : Files
  environment : List (String × String)

/-- The file of the configuration. -/
def configPath (home : String) (path : Option String) : String :=
  path.getD (joinPath home Problem.fileName)

/-- The files that an invocation can ask for. -/
def Invocation.paths (i : Invocation) (home : String) : List String :=
  configPath home i.config :: match i.action with
    | .check _ | .select _ _ _ => []
    | .filter _ graph _ _ _ | .reach _ _ graph _ _ => [graph]

/-- Loads the configuration of a path, or that of the current directory. -/
def loadConfig (s : Surroundings) (path : Option String) : Except Failure Config :=
  let discovery : Discovery := ⟨s.home, Config.defaultStem, s.files, s.environment⟩
  let loaded := match path with
    | some path => discovery.loadFrom path
    | none => discovery.load
  loaded.mapError (.notLoaded path)

def resolveConfig (c : Config) : Except Failure Resolved := c.resolve.mapError .invalidConfig

/-- Reads a graph and looks its relations up. -/
def loadGraph (s : Surroundings) (path : String) (catalog : Catalog) : Except Failure Graph :=
  match s.files path with
  | .text content =>
    ((Snapshot.ofText content).bind (·.resolve catalog)).mapError (.invalidGraph path)
  | .unreadable | .directory | .nothing => .error (.unreadableGraph path)

/-! ### Commands -/

/-- How many entries of each kind there are. -/
def summary (r : Resolved) : List String :=
  ["relations:     " ++ toString r.catalog.size,
    "relation sets: " ++ toString r.relationSets.size,
    "matchers:      " ++ toString r.matchers.size,
    "models:        " ++ toString r.models.models.size,
    "pipelines:     " ++ toString r.pipelines.size,
    "documents:     " ++ toString r.documents.length]

/-- All entries by name. -/
def listing (r : Resolved) : List String :=
  (r.relationSets.entries.map fun e => "set " ++ e.1 ++ ": " ++ ", ".intercalate e.2.ids) ++
    (r.matchers.keys.map fun name => "matcher " ++ name) ++
    (r.pipelines.entries.map fun p =>
      "pipeline " ++ p.name ++ ": [" ++ ", ".intercalate (p.stages.map Stage.label) ++ "]") ++
    (r.documents.map fun d => "document " ++ d.name)

def emptySetNotes (r : Resolved) : List Note :=
  (r.relationSets.entries.filter (·.2.isEmpty)).map fun e =>
    ⟨.warning, "relation set '" ++ e.1 ++ "' is empty"⟩

def check (quiet : Bool) (list : Bool) (c : Config) : Session Unit := do
  let r ← resolveConfig c
  note quiet [⟨.success, "Configuration is valid"⟩]
  sayAll (summary r)
  note quiet (emptySetNotes r)
  if list then sayAll (listing r)

/-- The documents that a selection shows. -/
def selected (r : Resolved) (m : Model) (best : Bool) : List (Document PropertyMap) :=
  let all := Document.select r.documents m
  if best then all.take 1 else all

def select (quiet : Bool) (model : String) (best json : Bool) (c : Config) : Session Unit := do
  let r ← resolveConfig c
  match r.models.get? model with
  | none => throw (.unknownModel model)
  | some m =>
    let documents := selected r m best
    if documents.isEmpty then
      note quiet [⟨.warning, "no analysis document applies to '" ++ model ++ "'"⟩]
    if json then
      sayJson (.arr (documents.map fun d => (Record.document d.describe).toJson))
    else sayAll (documents.map Document.name)

/-- What a pipeline says of a node, on one line. -/
def explanation (p : Pipeline) (g : Graph) (id : String) : String :=
  match (p.evaluate g id).rejectedBy with
  | none => id ++ "\tincluded"
  | some place =>
    id ++ "\texcluded by stage " ++ toString place ++ " (" ++
      ((p.stages[place]?.map Stage.label).getD "") ++ ")"

/-- The nodes that pass; where it is done in parallel does not change them. -/
def kept (p : Pipeline) (g : Graph) (parallel : Bool) : List String :=
  if parallel then p.filterInParallel g else p.filter g

def filter (s : Surroundings) (quiet : Bool) (pipeline graph : String)
    (parallel explain json : Bool) (c : Config) : Session Unit := do
  let r ← resolveConfig c
  match r.pipeline? pipeline with
  | none => throw (.unknownPipeline pipeline)
  | some p =>
    let g ← loadGraph s graph r.catalog
    if explain then sayAll (g.ids.map (explanation p g))
    else
      let ids := kept p g (parallel || r.settings.parallel)
      note quiet [⟨.info, toString ids.length ++ " of " ++ toString g.ids.length ++
        " nodes pass '" ++ p.name ++ "'"⟩]
      if json then sayJson (.strings ids) else sayAll ids

/-- An edge as it reads from its source to its target. -/
def edgeLine (e : Edge) : String :=
  e.source ++ " -[" ++ e.relation.forward ++ "]-> " ++ e.target

def missingRootNotes (g : Graph) (roots : List String) : List Note :=
  (roots.filter (!g.contains ·)).map fun root =>
    ⟨.warning, "root '" ++ root ++ "' is not in the graph"⟩

def reach (s : Surroundings) (quiet : Bool) (roots : List String) (matcher graph : String)
    (edges json : Bool) (c : Config) : Session Unit := do
  let r ← resolveConfig c
  let m ← (r.matcher matcher).mapError Failure.notConfigured
  let g ← loadGraph s graph r.catalog
  note quiet (missingRootNotes g roots)
  let reached := g.reachable m.policy roots
  if edges then
    let found := g.subgraphEdges m.policy reached
    if json then sayJson (.arr (found.map fun e => Snapshot.recordToJson e.record))
    else sayAll (found.map edgeLine)
  else if json then sayJson (.strings reached)
  else sayAll reached

/-! ### The whole -/

def session (s : Surroundings) (i : Invocation) : Session Unit := do
  let c ← loadConfig s i.config
  match i.action with
  | .check list => check i.quiet list c
  | .select model best json => select i.quiet model best json c
  | .filter pipeline graph parallel explain json =>
    filter s i.quiet pipeline graph parallel explain json c
  | .reach roots matcher graph edges json => reach s i.quiet roots matcher graph edges json c

/-- What is left of an execution: its exit code and the console. -/
structure Outcome where
  exitCode : Nat
  console : Console
  deriving DecidableEq, Repr

/-- Executes an invocation. A failure is noted last. -/
def execute (s : Surroundings) (i : Invocation) : Outcome :=
  match (session s i).run .empty with
  | (.ok (), console) => ⟨0, console⟩
  | (.error failure, console) =>
    ⟨1, { console with notes := console.notes ++ failure.notes }⟩

end RelGraph.Command
