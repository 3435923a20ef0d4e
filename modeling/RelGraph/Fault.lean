/-! What can go wrong while relations, models, documents and graphs are put together. A fault names
its cause; `Fault.message` is the only place where it gets its words. Evaluation never faults. -/

namespace RelGraph

/-- A fault of construction, by cause. -/
inductive Fault
  | blankRelationId
  | missingRelationId
  /-- The relation is bound to the two given labels already. -/
  | relationRedefined (id forward reverse : String)
  | blankModelId
  | blankNodeKind (model : String)
  | repeatedNodeKind (model kind : String)
  | repeatedRelation (model relation : String)
  | modelRedefinesRelation (model relation : String)
  | blankDocumentName
  | reservedProperty (document key : String)
  | readOnlyProperty (key : String)
  | unknownRelation (id : String)
  | unknownNode (id : String)
  | duplicateModel (id : String)
  | unreadableGraph
  | unreadableRecord
  deriving DecidableEq, Repr

namespace Fault

/-- The five families of faults. -/
inductive Family
  | configuration | unknownRelation | unknownNode | duplicateModel | serialization
  deriving DecidableEq, Repr

def family : Fault → Family
  | unknownRelation _ => .unknownRelation
  | unknownNode _ => .unknownNode
  | duplicateModel _ => .duplicateModel
  | unreadableGraph | unreadableRecord => .serialization
  | _ => .configuration

/-- Every fault but an unreadable text comes from what was configured. -/
def isConfiguration (f : Fault) : Bool := f.family != .serialization

/-- What stands for the words of a text format's reader. -/
def readerDetail : String := "<detail>"

def cause : Fault → String
  | blankRelationId => "relation id cannot be empty"
  | missingRelationId => "missing relation identifier"
  | relationRedefined id forward reverse =>
    "relation '" ++ id ++ "' is already defined as '" ++ forward ++ "'/'" ++ reverse ++ "'"
  | blankModelId => "dependency model id cannot be empty"
  | blankNodeKind model => "model '" ++ model ++ "' contributes an empty node kind"
  | repeatedNodeKind model kind =>
    "model '" ++ model ++ "' contributes node kind '" ++ kind ++ "' more than once"
  | repeatedRelation model relation =>
    "model '" ++ model ++ "' contributes relation '" ++ relation ++ "' more than once"
  | modelRedefinesRelation model relation =>
    "model '" ++ model ++ "' redefines relation '" ++ relation ++ "'"
  | blankDocumentName => "analysis document name cannot be empty"
  | reservedProperty document key =>
    "document '" ++ document ++ "' payload overrides reserved key '" ++ key ++ "'"
  | readOnlyProperty key => "property '" ++ key ++ "' is read-only"
  | unknownRelation id => id
  | unknownNode id => id
  | duplicateModel id => id
  | unreadableGraph => "Failed to parse graph: " ++ readerDetail
  | unreadableRecord => "Failed to parse record: " ++ readerDetail

def Family.heading : Family → String
  | configuration => "Invalid configuration: "
  | unknownRelation => "Unknown relation: "
  | unknownNode => "Unknown node: "
  | duplicateModel => "Dependency model already registered: "
  | serialization => "Serialization error: "

def message (f : Fault) : String := f.family.heading ++ f.cause

end Fault

end RelGraph
