import RelGraph.Catalog

/-! Relation sets: named, immutable groups of relations. Members are kept in ascending order of
their identifiers, each once. A set is what its member identifiers say; its name and the labels of
its members are carried along. -/

namespace RelGraph

/-- A named set of relations. -/
structure RelationSet where
  name : String
  members : Ascending Relation.id
  deriving DecidableEq

namespace RelationSet

/-- The set of the listed relations; of several with one identifier the last is kept. -/
def ofList (name : String) (l : List Relation) : RelationSet := ⟨name, Ascending.ofList l⟩

def ids (s : RelationSet) : List String := s.members.keys

/-- The set of the listed relations, named after its members. -/
def named (l : List Relation) : RelationSet :=
  let members : Ascending Relation.id := Ascending.ofList l
  ⟨"+".intercalate members.keys, members⟩

def empty (name : String) : RelationSet := ⟨name, ∅⟩

def containsId (s : RelationSet) (id : String) : Bool := s.members.contains id

def contains (s : RelationSet) (r : Relation) : Bool := s.containsId r.id

def size (s : RelationSet) : Nat := s.members.size

def isEmpty (s : RelationSet) : Bool := s.members.isEmpty

/-- The members of both sets; where both have an identifier, the left member is kept. -/
def union (s t : RelationSet) : RelationSet :=
  ⟨s.name ++ "+" ++ t.name, t.members.insertMany s.members.entries⟩

/-- How many times smaller a set has to be for its members to be looked up in the other set. -/
def lookUpRatio : Nat := 16

/-- The last identifier of one set is the first of the other. -/
def touches (s t : RelationSet) : Bool :=
  s.ids.head? == t.ids.getLast? || s.ids.getLast? == t.ids.head?

/-- The members whose identifiers both sets have. They are taken from the left set, unless the right
one is so much smaller that its members are looked up in the left one; sets that touch need no
looking up. -/
def inter (s t : RelationSet) : RelationSet :=
  ⟨s.name ++ "&" ++ t.name,
    if lookUpRatio * t.size ≤ s.size && !s.touches t then t.members.filter s.contains
    else s.members.filter t.contains⟩

/-- The members of the left set whose identifiers the right one lacks. -/
def diff (s t : RelationSet) : RelationSet :=
  ⟨s.name ++ "-" ++ t.name, s.members.filter fun r => !t.contains r⟩

def renamed (s : RelationSet) (name : String) : RelationSet := { s with name }

/-- Two sets are equal when they have the same member identifiers. -/
def sameMembers (s t : RelationSet) : Bool := s.ids == t.ids

/-- What a hash of the set is taken from. -/
def hashKey (s : RelationSet) : List String := s.ids

end RelationSet

/-- A relation set as it is written down: its name and relation identifiers. -/
structure RelationSet.Descriptor where
  name : String
  relations : List String
  deriving DecidableEq, Repr

namespace RelationSet

def describe (s : RelationSet) : Descriptor := ⟨s.name, s.ids⟩

/-- Looks every identifier up; the first that is blank or not bound is the fault. -/
def Descriptor.resolve (d : Descriptor) (c : Catalog) : Except Fault RelationSet := do
  return ofList d.name (← Catalog.resolveAll c d.relations)

end RelationSet

end RelGraph
