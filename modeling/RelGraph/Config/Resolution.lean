import RelGraph.Config.Validation
import RelGraph.Pipeline
import RelGraph.Registry

/-! Resolution: from a configuration to what it names. A configuration is validated first; then its
relations, sets, matchers, models, pipelines and documents are built in this order, and the first
problem is the answer. A matcher is built from the matchers it refers to, along a path on which no
name may occur twice. -/

namespace RelGraph.Config

abbrev NamedSets := Listing (Prod.fst : String × RelationSet → String)

abbrev NamedMatchers := Listing (Prod.fst : String × Matcher → String)

/-- What a configuration names, built and linked. -/
structure Resolved where
  settings : Settings
  catalog : Catalog
  relationSets : NamedSets
  matchers : NamedMatchers
  models : Registry
  pipelines : Listing Pipeline.name
  documents : List (Document PropertyMap)

namespace Resolved

def relationSet (r : Resolved) (name : String) : Except Problem RelationSet :=
  match r.relationSets.find? name with
  | some (_, set) => .ok set
  | none => .error (.unknownRelationSet name)

def matcher (r : Resolved) (name : String) : Except Problem Matcher :=
  match r.matchers.find? name with
  | some (_, matcher) => .ok matcher
  | none => .error (.unknownMatcher name)

def pipeline? (r : Resolved) (name : String) : Option Pipeline := r.pipelines.find? name

end Resolved

/-! ### Relations and sets -/

def buildCatalog (c : Config) : Except Problem Catalog := do
  let relations ← ofGraph (c.relations.mapM Relation.Descriptor.build)
  ofGraph (Catalog.ofRelations relations)

def buildSet (catalog : Catalog) (entry : String × List String) :
    Except Problem (String × RelationSet) := do
  return (entry.1, .ofList entry.1 (← ofGraph (catalog.resolveAll entry.2)))

def buildSets (c : Config) (catalog : Catalog) : Except Problem NamedSets := do
  return .ofList (← c.relationSets.entries.mapM (buildSet catalog))

/-! ### Matchers -/

/-- How many matchers are declared that are not on the path. -/
def offPath (c : Config) (path : List String) : Nat :=
  (c.matchers.keys.filter (· ∉ path)).length

theorem offPath_lt {c : Config} {path : List String} {name : String}
    {entry : String × MatcherEntry} (hfind : c.matchers.find? name = some entry)
    (hpath : name ∉ path) :
    c.offPath (path ++ [name]) < c.offPath path := by
  have hname : name ∈ c.matchers.keys := by
    have h := List.find?_some hfind
    simp only [beq_iff_eq] at h
    exact List.mem_map.2 ⟨entry, List.mem_of_find?_eq_some hfind, h⟩
  have : c.matchers.keys.filter (· ∉ path ++ [name]) =
      (c.matchers.keys.filter (· ∉ path)).filter (· ≠ name) := by
    rw [List.filter_filter]
    refine List.filter_congr fun w _ => ?_
    by_cases hw : w = name <;> simp [hw]
  rw [offPath, offPath, this]
  exact List.length_filter_lt_length_iff_exists.2 ⟨name, by simp [hname, hpath], by simp⟩

mutual

/-- The matcher of a name. The path leads to it from the matcher that is wanted, by one reference
after the other. -/
def matcherAt (c : Config) (sets : NamedSets) (path : List String) (name : String) :
    Except Problem Matcher :=
  if _hpath : name ∈ path then .error (.schema (.matcherCycle (path ++ [name])))
  else
    match _hfind : c.matchers.find? name with
    | none => .error (.unknownMatcher name)
    | some (_, .within set forward reverse) =>
      match sets.find? set with
      | some (_, members) => .ok (.within members forward reverse)
      | none => .error (.unknownRelationSet set)
    | some (_, .all names) => (matchersAt c sets (path ++ [name]) names).map .allOf
    | some (_, .any names) => (matchersAt c sets (path ++ [name]) names).map .anyOf
    | some (_, .deny) => .ok .deny
termination_by (c.offPath path, 0)
decreasing_by
  all_goals exact Prod.Lex.left _ _ (offPath_lt _hfind _hpath)

/-- The matchers of the names, in their order. -/
def matchersAt (c : Config) (sets : NamedSets) (path : List String) :
    List String → Except Problem (List Matcher)
  | [] => .ok []
  | name :: rest => do
    return (← matcherAt c sets path name) :: (← matchersAt c sets path rest)
termination_by names => (c.offPath path, names.length + 1)
decreasing_by
  all_goals exact Prod.Lex.right _ (by simp)

end

def buildMatcher (c : Config) (sets : NamedSets) (name : String) :
    Except Problem (String × Matcher) := do
  return (name, ← matcherAt c sets [] name)

def buildMatchers (c : Config) (sets : NamedSets) : Except Problem NamedMatchers := do
  return .ofList (← c.matchers.keys.mapM (buildMatcher c sets))

/-! ### Models -/

def buildModel (catalog : Catalog) (m : ModelEntry) : Except Problem Model := do
  let relations ← ofGraph (catalog.resolveAll m.relations)
  ofGraph (Model.build m.id m.nodeKinds relations)

/-- Builds a model and registers it. -/
def addModel (catalog : Catalog) (registry : Registry) (m : ModelEntry) :
    Except Problem Registry := do
  ofGraph (registry.register (← buildModel catalog m))

def buildModels (c : Config) (catalog : Catalog) : Except Problem Registry :=
  c.models.foldlM (addModel catalog) ∅

/-! ### Pipelines -/

/-- The stage of an entry. The matchers are those that the configuration names. -/
def buildStage (matchers : NamedMatchers) : StageEntry → Except Problem Stage
  | .nodeKinds kinds => .ok (.ofKinds kinds)
  | .namePattern pattern =>
    match Pattern.compile? pattern with
    | some compiled => .ok (.namePattern compiled)
    | none => .error (.invalidPattern pattern)
  | .members ids => .ok (.ofMembers ids)
  | .degree matcher mode range =>
    match matchers.find? matcher with
    | some (_, m) => range.toRange.map (.degree m mode)
    | none => .error (.unknownMatcher matcher)
  | .not stage => (buildStage matchers stage).map .not
  | .all stages => (each stages).map .allOf
  | .any stages => (each stages).map .anyOf
where
  each : List StageEntry → Except Problem (List Stage)
    | [] => .ok []
    | s :: rest => do return (← buildStage matchers s) :: (← each rest)

def buildPipeline (matchers : NamedMatchers) (f : FilterEntry) : Except Problem Pipeline := do
  return ⟨f.name, ← buildStage.each matchers f.stages⟩

def buildPipelines (c : Config) (matchers : NamedMatchers) :
    Except Problem (Listing Pipeline.name) := do
  return .ofList (← c.filters.mapM (buildPipeline matchers))

/-- The stage excludes every node of every graph, as far as its form tells. -/
def excludesEverything : StageEntry → Bool
  | .nodeKinds kinds => kinds.isEmpty
  | .members ids => ids.isEmpty
  | .any stages => every stages
  | .all stages => some stages
  | .namePattern _ | .degree _ _ _ | .not _ => false
where
  every : List StageEntry → Bool
    | [] => true
    | s :: rest => excludesEverything s && every rest
  some : List StageEntry → Bool
    | [] => false
    | s :: rest => excludesEverything s || some rest

/-! ### The whole -/

def buildDocuments (c : Config) : Except Problem (List (Document PropertyMap)) :=
  ofGraph (c.documents.mapM Document.Descriptor.build)

/-- Validates the configuration and builds what it names. -/
def resolve (c : Config) : Except Problem Resolved := do
  c.validate
  let catalog ← c.buildCatalog
  let sets ← c.buildSets catalog
  let matchers ← c.buildMatchers sets
  let models ← c.buildModels catalog
  let pipelines ← c.buildPipelines matchers
  let documents ← c.buildDocuments
  return ⟨c.settings, catalog, sets, matchers, models, pipelines, documents⟩

/-! ### Warnings -/

/-- What is noticed on the way and does no harm by itself. -/
inductive Warning
  /-- A relation set without members: what is scoped to it is closed. -/
  | emptySet (name : String)
  /-- A filter that excludes every node. -/
  | excludingFilter (name : String)
  deriving DecidableEq, Repr

def Warning.message : Warning → String
  | emptySet _ => "relation set is empty; matchers scoped to it deny everything"
  | excludingFilter _ => "filter has a stage that excludes every node"

/-- The sets that a configuration names, once it is validated. -/
def resolveSets (c : Config) : Except Problem (Catalog × NamedSets) := do
  c.validate
  let catalog ← c.buildCatalog
  return (catalog, ← c.buildSets catalog)

/-- What comes before the pipelines. -/
def resolveModels (c : Config) : Except Problem Registry := do
  let (catalog, sets) ← c.resolveSets
  let _ ← c.buildMatchers sets
  c.buildModels catalog

def setWarnings (c : Config) : List Warning :=
  match c.resolveSets with
  | .ok (_, sets) => (sets.entries.filter (·.2.isEmpty)).map fun e => .emptySet e.1
  | .error _ => []

def filterWarnings (c : Config) : List Warning :=
  match c.resolveModels with
  | .ok _ =>
    (c.filters.filter (·.stages.any excludesEverything)).map fun f => .excludingFilter f.name
  | .error _ => []

/-- The warnings of a resolution, in the order in which they arise. Those that come before a
problem are given all the same. -/
def warnings (c : Config) : List Warning := c.setWarnings ++ c.filterWarnings

end RelGraph.Config
