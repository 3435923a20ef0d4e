import RelGraph.Applicability

/-! Analysis documents: a name and an applicability bound to a payload. The key `matcher` is
reserved: it always reads as the applicability and can never be written through the document. Every
other key belongs to the payload, which has its own rules for reading and writing. -/

namespace RelGraph

/-- Texts with their JSON values, in ascending order. -/
abbrev PropertyMap := Ascending (Prod.fst : String × Json → String)

namespace PropertyMap

def get? (m : PropertyMap) (key : String) : Option Json := (m.find? key).map Prod.snd

def put (m : PropertyMap) (key : String) (value : Json) : PropertyMap := m.insert (key, value)

def toJson (m : PropertyMap) : Json := .obj m.entries

def ofDatum? : Datum → Option PropertyMap := Datum.map? Datum.toJson?

end PropertyMap

/-- What can be the payload of a document: how its properties are read and written. -/
class Payload (π : Type) where
  property? : π → String → Option Json
  isWritable : π → String → Bool
  setProperty : π → String → Json → Except Fault π
  toJson : π → Json
  ofDatum? : Datum → Option π

/-- The payload without properties refuses every write. -/
instance : Payload Unit where
  property? _ _ := none
  isWritable _ _ := false
  setProperty _ key _ := .error (.readOnlyProperty key)
  toJson _ := .null
  ofDatum?
    | .null => some ()
    | _ => none

/-- In a property map every key can be written. -/
instance : Payload PropertyMap where
  property? := PropertyMap.get?
  isWritable _ _ := true
  setProperty m key value := .ok (m.put key value)
  toJson := PropertyMap.toJson
  ofDatum? := PropertyMap.ofDatum?

/-- A named payload with the models that it applies to. -/
structure Document (π : Type) where
  name : String
  matcher : Applicability
  payload : π
  name_not_blank : Text.isBlank name = false

/-- What a document answers for a key. -/
inductive Property
  | matcher (m : Applicability)
  | payload (value : Json)

namespace Document

/-- The key that belongs to the document itself. -/
def reservedKey : String := "matcher"

variable {π : Type}

/-- Binds a name, an applicability and a payload. The name must not be blank, and the payload must
not have the reserved key. -/
def make [Payload π] (name : String) (matcher : Applicability) (payload : π) :
    Except Fault (Document π) :=
  if h : Text.isBlank name = false then
    if (Payload.property? payload reservedKey).isSome then
      .error (.reservedProperty name reservedKey)
    else .ok ⟨name, matcher, payload, h⟩
  else .error .blankDocumentName

def property? [Payload π] (d : Document π) (key : String) : Option Property :=
  if key = reservedKey then some (.matcher d.matcher)
  else (Payload.property? d.payload key).map .payload

def isWritable [Payload π] (d : Document π) (key : String) : Bool :=
  key != reservedKey && Payload.isWritable d.payload key

/-- Writes to the payload, past the document's own rule for the reserved key. -/
def setPayloadProperty [Payload π] (d : Document π) (key : String) (value : Json) :
    Except Fault (Document π) := do
  return { d with payload := ← Payload.setProperty d.payload key value }

/-- Writes a property. The reserved key is refused. -/
def setProperty [Payload π] (d : Document π) (key : String) (value : Json) :
    Except Fault (Document π) :=
  if key = reservedKey then .error (.readOnlyProperty key) else d.setPayloadProperty key value

def appliesTo (d : Document π) (m : Model) : Bool := d.matcher.appliesTo m

/-! ### Selection -/

/-- The documents that apply to a model, in their order. -/
def select (docs : List (Document π)) (m : Model) : List (Document π) :=
  docs.filter (·.appliesTo m)

/-- The first document that applies to a model. -/
def best? (docs : List (Document π)) (m : Model) : Option (Document π) :=
  docs.find? (·.appliesTo m)

def named? (docs : List (Document π)) (name : String) : Option (Document π) :=
  docs.find? (·.name == name)

end Document

end RelGraph
