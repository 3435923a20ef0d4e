import RelGraph.Config
import RelGraph.Pattern

/-! Validation: whether the entries of a configuration fit together. Names are not blank, what must
be unique occurs once, and every reference is declared. No relation, matcher or pipeline is built
for this. The parts are looked at in their order, and the first problem is the answer. -/

namespace RelGraph.Config

/-- Whether the names of the entries can be used. -/
def checkName (part : Section) (name : String) : Except Problem Unit :=
  if Text.isBlank name then .error (.schema (.blankName part)) else .ok ()

/-- Checks the entries of a part whose names have to be distinct: the name, whether it was seen
before, and then what else belongs to the entry. -/
def checkDistinct {α : Type} (part : Section) (name : α → String)
    (check : α → Except Problem Unit) (seen : List String) : List α → Except Problem Unit
  | [] => .ok ()
  | a :: rest => do
    checkName part (name a)
    if name a ∈ seen then throw (.schema (.repeatedName part (name a)))
    check a
    checkDistinct part name check (name a :: seen) rest

/-! ### Relations and sets -/

/-- The identifiers of the declared relations. -/
def relationIds (c : Config) : List String := c.relations.map (·.id)

/-- Two relations with one identifier and different labels. -/
def conflicts (r s : Relation.Descriptor) : Bool :=
  s.id == r.id && (s.forward != r.forward || s.reverse != r.reverse)

def checkRelation (c : Config) (r : Relation.Descriptor) : Except Problem Unit :=
  if Text.isBlank r.id then .error (.schema .blankRelationId)
  else if c.relations.any (conflicts r) then .error (.schema (.conflictingLabels r.id))
  else .ok ()

/-- Every identifier is that of a declared relation. -/
def checkRelationIds (c : Config) (ids : List String) : Except Problem Unit :=
  match ids.find? (· ∉ c.relationIds) with
  | some missing => .error (.unknownRelation missing)
  | none => .ok ()

def checkSet (c : Config) (entry : String × List String) : Except Problem Unit := do
  checkName .relationSet entry.1
  c.checkRelationIds entry.2

/-! ### Matchers -/

def checkMatcherEntry (c : Config) : MatcherEntry → Except Problem Unit
  | .within set _ _ =>
    if c.relationSets.contains set then .ok () else .error (.unknownRelationSet set)
  | .all names | .any names =>
    match names.find? (!c.matchers.contains ·) with
    | some missing => .error (.unknownMatcher missing)
    | none => .ok ()
  | .deny => .ok ()

def checkMatcher (c : Config) (entry : String × MatcherEntry) : Except Problem Unit := do
  checkName .matcher entry.1
  c.checkMatcherEntry entry.2

/-! ### Filters -/

/-- The first problem of a stage, from left to right at every depth. -/
def checkStage (c : Config) : StageEntry → Except Problem Unit
  | .nodeKinds _ | .members _ => .ok ()
  | .namePattern pattern =>
    if Pattern.compiles pattern then .ok () else .error (.invalidPattern pattern)
  | .degree matcher _ range =>
    if c.matchers.contains matcher then range.toRange.map fun _ => ()
    else .error (.unknownMatcher matcher)
  | .not stage => checkStage c stage
  | .all stages | .any stages => each stages
where
  each : List StageEntry → Except Problem Unit
    | [] => .ok ()
    | s :: rest => do
      checkStage c s
      each rest

/-! ### The whole -/

/-- Accepts a configuration whose entries fit together. -/
def validate (c : Config) : Except Problem Unit := do
  c.relations.forM c.checkRelation
  c.relationSets.entries.forM c.checkSet
  c.matchers.entries.forM c.checkMatcher
  checkDistinct .model ModelEntry.id (fun m => c.checkRelationIds m.relations) [] c.models
  checkDistinct .filter FilterEntry.name (fun f => checkStage.each c f.stages) [] c.filters
  checkDistinct .document (fun d : DocumentEntry => d.name) (fun _ => .ok ()) [] c.documents

end RelGraph.Config
