import RelGraph.Fault

/-! What can be wrong with a configuration: where it is looked for, how it is written, whether its
entries fit together, and what the graph library says of them. A problem names its cause; message
and hint are worded here and nowhere else. -/

namespace RelGraph.Config

/-- The parts of a configuration whose entries have names. -/
inductive Section
  | relationSet | matcher | model | filter | document
  deriving DecidableEq, Repr

def Section.text : Section → String
  | relationSet => "relation set"
  | matcher => "matcher"
  | model => "model"
  | filter => "filter"
  | document => "document"

/-- How the entries of a configuration can fail to fit together. -/
inductive SchemaFault
  | blankRelationId
  | conflictingLabels (id : String)
  | blankName (part : Section)
  | repeatedName (part : Section) (name : String)
  | severalRanges
  | invertedRange (min max : Nat)
  /-- Each matcher is a part of the one before it, and the last is one of the others. -/
  | matcherCycle (chain : List String)
  deriving DecidableEq, Repr

namespace SchemaFault

def message : SchemaFault → String
  | blankRelationId => "relation id cannot be empty"
  | conflictingLabels id => "relation '" ++ id ++ "' is defined with different labels"
  | blankName part => part.text ++ " name cannot be empty"
  | repeatedName part name => part.text ++ " '" ++ name ++ "' is defined more than once"
  | severalRanges => "degree stage sets more than one count range"
  | invertedRange min max =>
    "count range [" ++ toString min ++ ", " ++ toString max ++ "] has min greater than max"
  | matcherCycle chain => "matcher cycle: " ++ " -> ".intercalate chain

def hint : SchemaFault → String
  | blankRelationId => "Give every [[relations]] entry a non-empty id"
  | conflictingLabels _ => "Define each relation id once"
  | blankName part => "Give every " ++ part.text ++ " a non-empty name"
  | repeatedName part _ => "Rename or remove the duplicate " ++ part.text
  | severalRanges =>
    "Keep exactly one of equal, not_equal, less_than, at_most, greater_than, at_least, " ++
      "between, outside"
  | invertedRange _ _ => "Write two-sided ranges as [min, max]"
  | matcherCycle _ => "Composite matchers cannot refer back to themselves"

end SchemaFault

/-- What is wrong with a configuration, by cause. -/
inductive Problem
  /-- There is no configuration at the place. -/
  | notFound (place : String)
  /-- The files and variables cannot be read as a configuration. -/
  | unreadable
  /-- The value cannot be read as a configuration. -/
  | invalidValue
  | schema (fault : SchemaFault)
  | unknownRelation (id : String)
  | unknownRelationSet (name : String)
  | unknownMatcher (name : String)
  | invalidPattern (pattern : String)
  | graph (fault : Fault)
  deriving DecidableEq, Repr

namespace Problem

/-- The file in which a configuration is looked for. -/
def fileName : String := "depview.toml"

def message : Problem → String
  | notFound place => "no " ++ fileName ++ " found in " ++ place
  | unreadable => "failed to load configuration: " ++ Fault.readerDetail
  | invalidValue => "invalid config value for 'config'"
  | schema fault => "schema validation failed: " ++ fault.message
  | unknownRelation id => "unknown relation '" ++ id ++ "'"
  | unknownRelationSet name => "unknown relation set '" ++ name ++ "'"
  | unknownMatcher name => "unknown matcher '" ++ name ++ "'"
  | invalidPattern pattern =>
    "invalid name pattern '" ++ pattern ++ "': " ++ Fault.readerDetail
  | graph fault => fault.message

/-- A suggestion, where there is one. -/
def hint? : Problem → Option String
  | notFound _ => some ("Create a " ++ fileName ++ " or pass --config <FILE>")
  | invalidValue => some Fault.readerDetail
  | schema fault => some fault.hint
  | _ => none

/-- The problem and the causes below it, outermost first. -/
def causes : Problem → List String
  | invalidPattern pattern => [(invalidPattern pattern).message, Fault.readerDetail]
  | problem => [problem.message]

end Problem

/-- Carries a fault of the graph library over. -/
def ofGraph {α : Type} : Except Fault α → Except Problem α
  | .ok a => .ok a
  | .error fault => .error (.graph fault)

end RelGraph.Config
