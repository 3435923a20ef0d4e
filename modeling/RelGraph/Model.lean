import RelGraph.Keyed
import RelGraph.Relation

/-! Dependency models: the node kinds and relations that an analysis contributes. A model names
each kind and each relation once. -/

namespace RelGraph

/-- The schema of a graph that an analysis produces. -/
structure Model where
  id : String
  nodeKinds : NameSet
  /-- In the order of their contribution. -/
  relations : List Relation
  id_not_blank : Text.isBlank id = false
  kinds_not_blank : ∀ k ∈ nodeKinds.entries, Text.isBlank k = false
  relations_nodup : (relations.map Relation.id).Nodup

namespace Model

/-- The first kind that is blank or was there before, as a fault of the model `id`. -/
def kindFault? (id : String) (seen : List String) : List String → Option Fault
  | [] => none
  | k :: rest =>
    if Text.isBlank k then some (.blankNodeKind id)
    else if k ∈ seen then some (.repeatedNodeKind id k)
    else kindFault? id (k :: seen) rest

/-- The first relation whose identifier was there before, as a fault of the model `id`. -/
def relationFault? (id : String) (seen : List String) : List Relation → Option Fault
  | [] => none
  | r :: rest =>
    if r.id ∈ seen then some (.repeatedRelation id r.id)
    else relationFault? id (r.id :: seen) rest

theorem not_blank_of_kindFault? {id : String} {seen kinds : List String}
    (h : kindFault? id seen kinds = none) : ∀ k ∈ kinds, Text.isBlank k = false := by
  induction kinds generalizing seen with
  | nil => simp
  | cons k rest ih =>
    rw [kindFault?] at h
    split at h
    · simp at h
    · split at h
      · simp at h
      · intro c hc
        rcases List.mem_cons.1 hc with rfl | hc
        · simpa using ‹¬Text.isBlank _ = true›
        · exact ih h c hc

theorem nodup_of_relationFault? {id : String} {seen : List String} {relations : List Relation}
    (h : relationFault? id seen relations = none) :
    (relations.map Relation.id).Nodup ∧ ∀ r ∈ relations, r.id ∉ seen := by
  induction relations generalizing seen with
  | nil => simp
  | cons r rest ih =>
    rw [relationFault?] at h
    split at h
    · simp at h
    · obtain ⟨hnd, hseen⟩ := ih h
      refine ⟨List.nodup_cons.2 ⟨fun hr => ?_, hnd⟩, fun s hs => ?_⟩
      · obtain ⟨s, hs, e⟩ := List.mem_map.1 hr
        exact hseen s hs (by simp [e])
      · rcases List.mem_cons.1 hs with rfl | hs
        · assumption
        · exact fun hm => hseen s hs (by simp [hm])

theorem mem_of_mem_insertMany {s : NameSet} {l : List String} {k : String}
    (h : k ∈ (s.insertMany l).entries) : k ∈ s.entries ∨ k ∈ l := by
  induction l generalizing s with
  | nil => exact .inl h
  | cons a rest ih =>
    rcases ih h with h | h
    · rcases Ascending.mem_insertEntry h with rfl | h
      · exact .inr (by simp)
      · exact .inl h
    · exact .inr (by simp [h])

/-- Puts a model together from what an analysis contributes. The identifier is looked at first,
then the kinds and then the relations, each in the order of their contribution. -/
def build (id : String) (kinds : List String) (relations : List Relation) : Except Fault Model :=
  if hid : Text.isBlank id = false then
    match hk : kindFault? id [] kinds with
    | some fault => .error fault
    | none =>
      match hr : relationFault? id [] relations with
      | some fault => .error fault
      | none => .ok
        { id, relations
          nodeKinds := NameSet.ofNames kinds
          id_not_blank := hid
          kinds_not_blank := fun k hm => by
            rcases mem_of_mem_insertMany hm with h | h
            · simp [Ascending.empty] at h
            · exact not_blank_of_kindFault? hk k h
          relations_nodup := (nodup_of_relationFault? hr).1 }
  else .error .blankModelId

def hasNodeKind (m : Model) (kind : String) : Bool := m.nodeKinds.contains kind

def hasRelation (m : Model) (id : String) : Bool := m.relations.any (·.id == id)

/-- The identifiers of the relations, in the order of their contribution. -/
def relationKinds (m : Model) : List String := m.relations.map Relation.id

end Model

end RelGraph
