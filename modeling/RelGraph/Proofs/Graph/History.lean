import Mathlib.Data.List.Induction
import RelGraph.Proofs.Graph.Views

/-! Graphs and the calls that build them. Any sequence of calls, refused ones among them, leaves a
graph that says the same as the plain list of its calls: a node for each added identifier, the edges
whose two ends had been added before, and views that agree with these two lists. Every operation has
one lemma on what it does to the lists; a step lemma carries the agreement over one call, and an
induction over the calls carries it over a whole history. -/

namespace RelGraph.Graph

/-! ### What the operations do to the lists -/

@[simp] theorem edges_addNode (g : Graph) (n : Node) : (g.addNode n).edges = g.edges := by
  rw [addNode]
  split <;> rfl

/-- A node with a new identifier comes last; any other takes the place of the one it replaces. -/
theorem nodes_addNode (g : Graph) (n : Node) :
    (g.addNode n).nodes = if n.id ∈ g.ids then g.nodes.map (fun m => if m.id = n.id then n else m)
      else g.nodes ++ [n] := by
  rw [addNode]
  split
  · next i hi =>
    have hn := (g.indexed.position_eq n.id i).1 hi
    have hmem : n.id ∈ g.ids := (position_contains_iff g n.id).1 (by
      rw [← Std.HashMap.isSome_getElem?_eq_contains, hi]; rfl)
    rw [if_pos hmem]
    refine List.ext_getElem? fun j => ?_
    rw [List.getElem?_map, getElem?_nodes, getElem?_nodes, Array.getElem?_set]
    split
    · next hij =>
      subst hij
      obtain ⟨m, hm, hid⟩ := Option.map_eq_some_iff.1 hn
      simp [hm, hid]
    · next hij =>
      -- any other node has another identifier
      rcases hm : g.nodeArray[j]? with _ | m
      · rfl
      · have hne : m.id ≠ n.id := by
          intro hid
          have hj := (g.indexed.position_eq n.id j).2 (by rw [hm, ← hid]; rfl)
          exact hij (Option.some.inj (hi.symm.trans hj))
        simp [hne]
  · next hi =>
    have hmem : n.id ∉ g.ids := by
      rw [← position_contains_iff, ← Std.HashMap.isSome_getElem?_eq_contains, hi]
      simp
    rw [if_neg hmem]
    simp [nodes]

theorem ids_addNode (g : Graph) (n : Node) :
    (g.addNode n).ids = if n.id ∈ g.ids then g.ids else g.ids ++ [n.id] := by
  rw [ids, nodes_addNode]
  split
  · rw [List.map_map]
    refine List.map_congr_left fun m _ => ?_
    by_cases hm : m.id = n.id <;> simp [hm]
  · simp [ids]

theorem nodes_of_addEdge {g g' : Graph} {s t : String} {r : Relation}
    (h : g.addEdge s t r = .ok g') : g'.nodes = g.nodes := by
  rw [addEdge] at h
  split at h
  · split at h
    · cases h; rfl
    · cases h
  · cases h

theorem edges_of_addEdge {g g' : Graph} {s t : String} {r : Relation}
    (h : g.addEdge s t r = .ok g') : g'.edges = g.edges ++ [⟨s, t, r⟩] := by
  rw [addEdge] at h
  split at h
  · split at h
    · cases h; simp [edges]
    · cases h
  · cases h

theorem addEdge_ok_iff {g : Graph} {s t : String} {r : Relation} :
    (∃ g', g.addEdge s t r = .ok g') ↔ s ∈ g.ids ∧ t ∈ g.ids := by
  rw [← position_contains_iff, ← position_contains_iff, addEdge]
  split
  · split <;> simp_all
  · simp_all

/-- The fault of an edge without an end names the source if that is missing, and else the target. -/
theorem addEdge_eq_error {g : Graph} {s t : String} {r : Relation}
    (h : ¬(s ∈ g.ids ∧ t ∈ g.ids)) :
    g.addEdge s t r = .error (.unknownNode (if s ∈ g.ids then t else s)) := by
  simp only [← position_contains_iff] at h ⊢
  rw [addEdge]
  by_cases hs : g.position.contains s = true
  · rw [dif_pos hs, dif_neg (fun ht => h ⟨hs, ht⟩), if_pos hs]
  · rw [dif_neg hs, if_neg hs]

/-! ### Histories -/

/-- A call that adds to a graph. -/
inductive Call
  | node (n : Node)
  | edge (source target : String) (relation : Relation)

/-- What a call makes of a graph. One that is refused leaves it alone. -/
def call (g : Graph) : Call → Graph
  | .node n => g.addNode n
  | .edge s t r =>
    match g.addEdge s t r with
    | .ok g' => g'
    | .error _ => g

/-- The graph after a history of calls. -/
def ofCalls (calls : List Call) : Graph := calls.foldl call ∅

theorem ofCalls_concat (calls : List Call) (c : Call) :
    ofCalls (calls ++ [c]) = (ofCalls calls).call c := by
  simp [ofCalls]

namespace Call

/-- The nodes that are added, in the order of the calls. -/
def added : List Call → List Node
  | [] => []
  | node n :: rest => n :: added rest
  | edge _ _ _ :: rest => added rest

/-- The edges whose two ends are known or have been added before, in the order of the calls. -/
def joined (known : List String) : List Call → List Edge
  | [] => []
  | node n :: rest => joined (n.id :: known) rest
  | edge s t r :: rest =>
    if s ∈ known ∧ t ∈ known then ⟨s, t, r⟩ :: joined known rest else joined known rest

/-- The identifiers of the nodes that are added. -/
def addedIds (calls : List Call) : List String := (added calls).map Node.id

theorem added_append (l m : List Call) : added (l ++ m) = added l ++ added m := by
  induction l with
  | nil => rfl
  | cons c rest ih => cases c <;> simp [added, ih]

theorem joined_congr {known known' : List String} (h : ∀ id, id ∈ known ↔ id ∈ known')
    (l : List Call) : joined known l = joined known' l := by
  induction l generalizing known known' with
  | nil => rfl
  | cons c rest ih =>
    cases c with
    | node n => exact ih (by simp [h])
    | edge s t r => simp only [joined, h, ih h]

theorem joined_append (known : List String) (l m : List Call) :
    joined known (l ++ m) = joined known l ++ joined (known ++ addedIds l) m := by
  induction l generalizing known with
  | nil => simp [joined, addedIds, added]
  | cons c rest ih =>
    cases c with
    | node n =>
      rw [List.cons_append, joined, joined, ih]
      congr 1
      exact joined_congr (by simp [addedIds, added]; tauto) m
    | edge s t r =>
      rw [List.cons_append, joined, joined, ih]
      split <;> simp [addedIds, added]

end Call

open Call

/-- The two lists of the graph are what the calls say: a node for each added identifier, in the
order of the first additions and as its last addition gives it, and the edges between nodes that
were there. -/
structure Records (g : Graph) (calls : List Call) : Prop where
  ids_eq : g.ids = (addedIds calls).eraseDups
  last : ∀ n ∈ g.nodes, (added calls).findRev? (·.id == n.id) = some n
  edges_eq : g.edges = joined [] calls

theorem Records.mem_ids {g : Graph} {calls : List Call} (h : Records g calls) {id : String} :
    id ∈ g.ids ↔ id ∈ addedIds calls := by
  rw [h.ids_eq, List.mem_eraseDups]

theorem Records.addNode {g : Graph} {calls : List Call} (h : Records g calls) (n : Node) :
    Records (g.addNode n) (calls ++ [.node n]) where
  ids_eq := by
    rw [ids_addNode, addedIds, added_append, List.map_append, List.eraseDups_append, ← addedIds,
      ← h.ids_eq]
    split
    · next hn =>
      rw [h.mem_ids] at hn
      simp [added, List.removeAll, hn]
    · next hn =>
      rw [h.mem_ids] at hn
      simp [added, List.removeAll, List.eraseDups_cons, hn]
  last m hm := by
    have hlast : m = n ∨ m ∈ g.nodes ∧ m.id ≠ n.id := by
      rw [nodes_addNode] at hm
      split at hm
      · obtain ⟨k, hk, rfl⟩ := List.mem_map.1 hm
        by_cases hid : k.id = n.id
        · simp [hid]
        · simp [hid, hk]
      · next hid =>
        rcases List.mem_append.1 hm with hm | hm
        · exact .inr ⟨hm, fun he => hid (he ▸ List.mem_map_of_mem hm)⟩
        · exact .inl (by simpa using hm)
    rcases hlast with rfl | ⟨hold, hne⟩
    · simp [added_append, added]
    · simpa [added_append, added, Ne.symm hne] using h.last m hold
  edges_eq := by
    rw [edges_addNode, h.edges_eq, joined_append]
    simp [joined]

theorem Records.addEdge {g g' : Graph} {calls : List Call} (h : Records g calls) {s t : String}
    {r : Relation} (hg : g.addEdge s t r = .ok g') : Records g' (calls ++ [.edge s t r]) where
  ids_eq := by
    rw [ids, nodes_of_addEdge hg, ← ids, h.ids_eq, addedIds, addedIds, added_append]
    simp [added]
  last n hn := by
    rw [nodes_of_addEdge hg] at hn
    simpa [added_append, added] using h.last n hn
  edges_eq := by
    have hends := addEdge_ok_iff.1 ⟨g', hg⟩
    rw [h.mem_ids, h.mem_ids] at hends
    rw [edges_of_addEdge hg, h.edges_eq, joined_append]
    simp [joined, hends]

theorem Records.refused {g : Graph} {calls : List Call} (h : Records g calls) {s t : String}
    {r : Relation} (hends : ¬(s ∈ g.ids ∧ t ∈ g.ids)) : Records g (calls ++ [.edge s t r]) where
  ids_eq := by
    rw [h.ids_eq, addedIds, addedIds, added_append]
    simp [added]
  last n hn := by simpa [added_append, added] using h.last n hn
  edges_eq := by
    rw [h.mem_ids, h.mem_ids] at hends
    rw [h.edges_eq, joined_append]
    simp [joined, hends]

theorem call_refused {g : Graph} {s t : String} {r : Relation}
    (hends : ¬(s ∈ g.ids ∧ t ∈ g.ids)) : g.call (.edge s t r) = g := by
  rw [call, addEdge_eq_error hends]

theorem Records.call {g : Graph} {calls : List Call} (h : Records g calls) (c : Call) :
    Records (g.call c) (calls ++ [c]) := by
  cases c with
  | node n => exact h.addNode n
  | edge s t r =>
    by_cases hends : s ∈ g.ids ∧ t ∈ g.ids
    · obtain ⟨g', hg⟩ := addEdge_ok_iff (r := r).2 hends
      rw [Graph.call, hg]
      exact h.addEdge hg
    · rw [call_refused hends]
      exact h.refused hends

theorem records_ofCalls (calls : List Call) : Records (ofCalls calls) calls := by
  induction calls using List.reverseRecOn with
  | nil => exact ⟨rfl, by simp [ofCalls, nodes, empty, EmptyCollection.emptyCollection], rfl⟩
  | append_singleton calls c ih =>
    rw [ofCalls_concat]
    exact ih.call c

/-! ### Positions -/

/-- An index that gives the places of one side of the edges leads to no place outside the list. -/
theorem place_lt {edges : Array Edge} {side : Edge → String}
    {index : Std.HashMap String (Array Nat)}
    (hindex : ∀ id, (index.getD id #[]).toList = Edge.places edges side id) {id : String}
    {places : Array Nat} (h : index[id]? = some places) {p : Nat} (hp : p ∈ places) :
    p < edges.size := by
  have heq := hindex id
  rw [Std.HashMap.getD_eq_getD_getElem?, h, Option.getD_some] at heq
  have hmem : p ∈ Edge.places edges side id := heq ▸ Array.mem_toList_iff.2 hp
  exact List.mem_range.1 (List.mem_filter.1 hmem).1

/-! ### Agreement -/

/-- The graph agrees with the plain lists of its calls in everything that can be asked of it, and
its indexes lead to no place outside its lists. -/
structure Agrees (g : Graph) (calls : List Call) : Prop extends Records g calls where
  node?_eq : ∀ id, g.node? id = g.nodes.find? (·.id == id)
  contains_iff : ∀ id, g.contains id = true ↔ ∃ n ∈ g.nodes, n.id = id
  outgoing_eq : ∀ id, g.outgoing id = g.edges.filter (·.source == id)
  incoming_eq : ∀ id, g.incoming id = g.edges.filter (·.target == id)
  accepts_edge : ∀ s t r, (∃ g', g.addEdge s t r = .ok g') ↔ s ∈ addedIds calls ∧ t ∈ addedIds calls
  refuses_edge : ∀ s t r, ¬(s ∈ addedIds calls ∧ t ∈ addedIds calls) →
    g.addEdge s t r = .error (.unknownNode (if s ∈ addedIds calls then t else s)) ∧
      g.call (.edge s t r) = g
  position_lt : ∀ (id : String) (i : Nat), g.position[id]? = some i → i < g.nodeArray.size
  leaving_lt : ∀ (id : String) (places : Array Nat), g.leaving[id]? = some places →
    ∀ p ∈ places, p < g.edgeArray.size
  arriving_lt : ∀ (id : String) (places : Array Nat), g.arriving[id]? = some places →
    ∀ p ∈ places, p < g.edgeArray.size

/-- After any history of calls the graph agrees with the plain lists of these calls. -/
theorem agrees_ofCalls (calls : List Call) : Agrees (ofCalls calls) calls := by
  have h := records_ofCalls calls
  have hmem {id : String} : id ∈ (ofCalls calls).ids ↔ id ∈ addedIds calls := h.mem_ids
  refine ⟨h, node?_eq_find? _, fun id => ?_, outgoing_eq_filter _, incoming_eq_filter _,
    fun s t r => ?_, fun s t r hends => ?_, fun _ _ => (ofCalls calls).indexed.lt_size,
    fun _ _ h _ => place_lt (ofCalls calls).indexed.leaving_eq h,
    fun _ _ h _ => place_lt (ofCalls calls).indexed.arriving_eq h⟩
  · simp [contains, node?_eq_find?]
  · rw [addEdge_ok_iff, hmem, hmem]
  · rw [← hmem, ← hmem] at hends
    refine ⟨?_, call_refused hends⟩
    rw [addEdge_eq_error hends]
    simp only [hmem]

end RelGraph.Graph
