import Mathlib.Data.Set.Card
import RelGraph.RelationSet
import RelGraph.Proofs.Keyed

/-! Relation sets and the terms that make them. A term says of every identifier which relation its
set shows for it, if any: a list shows the last one, a union the left one, a difference the one of
its left side. An intersection shows the left one as long as its left side does not outweigh the
right side; then it shows the right one. Identifiers decide everything else. -/

namespace RelGraph.RelationSet

variable {s t : RelationSet} {id : String}

/-! ### Looking members up -/

theorem containsId_eq_isSome (s : RelationSet) (id : String) :
    s.containsId id = (s.members.find? id).isSome :=
  s.members.contains_eq_isSome_find? id

theorem containsId_iff : s.containsId id = true ↔ ∃ r ∈ s.members.entries, r.id = id := by
  rw [containsId_eq_isSome, Option.isSome_iff_exists]
  simp only [Ascending.find?_eq_some_iff]

theorem size_eq_ncard (s : RelationSet) : s.size = {id | s.containsId id = true}.ncard := by
  have hset : {id | s.containsId id = true} = (s.ids.toFinset : Set String) := by
    ext id
    rw [List.coe_toFinset]
    exact Ascending.contains_iff
  have hnodup : s.ids.Nodup := s.members.nodup_keys
  rw [hset, Set.ncard_coe_finset, List.toFinset_card_of_nodup hnodup]
  exact (List.length_map Relation.id).symm

/-- Sets that have the same identifiers are equal. -/
theorem sameMembers_iff : s.sameMembers t = true ↔ ∀ id, s.containsId id = t.containsId id := by
  rw [sameMembers, beq_iff_eq, ids, ids, Ascending.keys_eq_iff]
  simp only [← Ascending.contains_iff, ← Bool.eq_iff_iff]
  rfl

theorem sameMembers_iff_hashKey : s.sameMembers t = true ↔ s.hashKey = t.hashKey := by
  rw [sameMembers, beq_iff_eq, hashKey, hashKey]

/-! ### Operations -/

/-- The left set has at least sixteen times as many members as the right one, and the least
identifier of neither set is the greatest of the other. -/
def Outweighs (s t : RelationSet) : Prop :=
  16 * t.size ≤ s.size ∧ s.ids.head? ≠ t.ids.getLast? ∧ s.ids.getLast? ≠ t.ids.head?

instance (s t : RelationSet) : Decidable (Outweighs s t) := inferInstanceAs (Decidable (_ ∧ _ ∧ _))

theorem find?_union (s t : RelationSet) (id : String) :
    (s.union t).members.find? id = (s.members.find? id).or (t.members.find? id) := by
  have hs : s.members.entries.findRev? (·.id == id) = s.members.find? id := by
    rw [← Ascending.find?_ofList, Ascending.ofList_entries]
  rw [union, Ascending.find?_insertMany, hs]

theorem members_inter (s t : RelationSet) :
    (s.inter t).members =
      if Outweighs s t then t.members.filter s.contains else s.members.filter t.contains := by
  have hcond : (lookUpRatio * t.size ≤ s.size && !s.touches t) = true ↔ Outweighs s t := by
    rw [Bool.and_eq_true, decide_eq_true_iff, Bool.not_eq_true', touches, Bool.or_eq_false_iff,
      beq_eq_false_iff_ne, beq_eq_false_iff_ne]
    rfl
  rw [inter]
  exact if_congr hcond rfl rfl

/-- What the members of a set with certain identifiers show. -/
theorem find?_filter_id (s : RelationSet) (q : String → Bool) (id : String) :
    (s.members.filter fun r => q r.id).find? id = if q id then s.members.find? id else none := by
  have hq : ∀ r : Relation, q r.id = q (Relation.id r) := fun _ => rfl
  exact Ascending.find?_filter hq s.members id

theorem find?_inter (s t : RelationSet) (id : String) :
    (s.inter t).members.find? id =
      if Outweighs s t then if (s.members.find? id).isSome then t.members.find? id else none
      else if (t.members.find? id).isSome then s.members.find? id else none := by
  rw [members_inter, ← containsId_eq_isSome, ← containsId_eq_isSome]
  split
  · exact t.find?_filter_id s.containsId id
  · exact s.find?_filter_id t.containsId id

theorem find?_diff (s t : RelationSet) (id : String) :
    (s.diff t).members.find? id =
      if (t.members.find? id).isSome then none else s.members.find? id := by
  have hfilter : (s.diff t).members.find? id =
      if !t.containsId id then s.members.find? id else none :=
    s.find?_filter_id (fun id => !t.containsId id) id
  rw [hfilter, ← containsId_eq_isSome]
  cases t.containsId id <;> rfl

theorem containsId_union (s t : RelationSet) (id : String) :
    (s.union t).containsId id = (s.containsId id || t.containsId id) := by
  simp only [containsId_eq_isSome, find?_union, Option.isSome_or]

theorem containsId_inter (s t : RelationSet) (id : String) :
    (s.inter t).containsId id = (s.containsId id && t.containsId id) := by
  simp only [containsId_eq_isSome, find?_inter]
  split <;> cases s.members.find? id <;> cases t.members.find? id <;> rfl

theorem containsId_diff (s t : RelationSet) (id : String) :
    (s.diff t).containsId id = (s.containsId id && !t.containsId id) := by
  simp only [containsId_eq_isSome, find?_diff]
  cases s.members.find? id <;> cases t.members.find? id <;> rfl

/-! ### Terms -/

/-- How a set is put together from lists of relations. -/
inductive Term
  | listed (name : String) (l : List Relation)
  | named (l : List Relation)
  | empty (name : String)
  | union (a b : Term)
  | inter (a b : Term)
  | diff (a b : Term)
  | renamed (a : Term) (name : String)

/-- The set that a term makes. -/
def Term.set : Term → RelationSet
  | listed name l => ofList name l
  | named l => RelationSet.named l
  | empty name => RelationSet.empty name
  | union a b => a.set.union b.set
  | inter a b => a.set.inter b.set
  | diff a b => a.set.diff b.set
  | renamed a name => a.set.renamed name

/-- The relation that the set of a term shows for an identifier. -/
def Term.member? (id : String) : Term → Option Relation
  | listed _ l => l.findRev? (·.id == id)
  | named l => l.findRev? (·.id == id)
  | empty _ => none
  | union a b => (a.member? id).or (b.member? id)
  | inter a b =>
    if Outweighs a.set b.set then if (a.member? id).isSome then b.member? id else none
    else if (b.member? id).isSome then a.member? id else none
  | diff a b => if (b.member? id).isSome then none else a.member? id
  | renamed a _ => a.member? id

theorem Term.find?_set (e : Term) (id : String) : e.set.members.find? id = e.member? id := by
  induction e with
  | listed name l => exact Ascending.find?_ofList l id
  | named l => exact Ascending.find?_ofList l id
  | empty name => rfl
  | union a b iha ihb => rw [set, find?_union, iha, ihb, member?]
  | inter a b iha ihb => rw [set, find?_inter, iha, ihb, member?]
  | diff a b iha ihb => rw [set, find?_diff, iha, ihb, member?]
  | renamed a name ih => exact ih

/-- What a set shows: its members in ascending order of their identifiers, each once, and what its
look-ups say of them. -/
structure Shows (s : RelationSet) (member? : String → Option Relation) : Prop where
  ids_ascending : (s.members.entries.map Relation.id).Pairwise (· < ·)
  mem_entries : ∀ r, r ∈ s.members.entries ↔ member? r.id = some r
  find?_eq : ∀ id, s.members.find? id = member? id
  containsId_iff : ∀ id, s.containsId id = true ↔ ∃ r ∈ s.members.entries, r.id = id
  contains_iff : ∀ q, s.contains q = true ↔ ∃ r ∈ s.members.entries, r.id = q.id
  size_eq : s.size = {id | s.containsId id = true}.ncard

theorem Term.shows_set (e : Term) : Shows e.set (e.member? ·) where
  ids_ascending := List.pairwise_map.2 e.set.members.ascending
  mem_entries := by
    intro r
    rw [← e.find?_set, Ascending.find?_eq_some_iff]
    exact (and_iff_left rfl).symm
  find?_eq := e.find?_set
  containsId_iff := fun _ => RelationSet.containsId_iff
  contains_iff := fun _ => RelationSet.containsId_iff
  size_eq := size_eq_ncard e.set

/-- However a set is put together, it shows for each identifier the relation that its term says.
Its operations are those of sets of identifiers, and so are equality and what it is hashed by. -/
theorem shows_of_terms :
    (∀ e : Term, Shows e.set (e.member? ·)) ∧
    (∀ s t : RelationSet, ∀ id,
      (s.union t).containsId id = (s.containsId id || t.containsId id) ∧
      (s.inter t).containsId id = (s.containsId id && t.containsId id) ∧
      (s.diff t).containsId id = (s.containsId id && !t.containsId id)) ∧
    (∀ s t : RelationSet,
      s.sameMembers t = true ↔ ∀ id, s.containsId id = t.containsId id) ∧
    ∀ s t : RelationSet, s.sameMembers t = true ↔ s.hashKey = t.hashKey :=
  ⟨Term.shows_set, fun s t id => ⟨containsId_union s t id, containsId_inter s t id,
    containsId_diff s t id⟩, fun _ _ => sameMembers_iff, fun _ _ => sameMembers_iff_hashKey⟩

/-- A term for the relations with these identifiers, all with one label. -/
def labelled (ids : List String) (label : String) : Term :=
  .named (ids.filterMap fun id => (Relation.make id label label).toOption)

/-- A relation that is looked up among sixteen others is shown as the right side has it. -/
theorem inter_shows_right :
    let s := (labelled ["a", "b", "c", "d", "e", "f", "g", "h", "i", "j", "k", "l", "m", "n", "o",
      "p"] "left").set
    let t := (labelled ["b"] "right").set
    s.containsId "b" = true ∧ t.containsId "b" = true ∧
      (s.inter t).members.find? "b" ≠ s.members.find? "b" ∧
      (s.inter t).members.find? "b" = t.members.find? "b" := by
  decide +kernel

end RelGraph.RelationSet
