import RelGraph.Catalog
import RelGraph.Positions

/-! Dependency graphs: nodes with a kind and a name, and directed edges that carry a relation.
Nodes keep the place of their first insertion; parallel edges and loops are allowed. Three indexes
lead from a node identifier to the place of the node and to the places of its edges, and the type
says that they agree with the two lists. Readers use the views `nodes`, `edges`, `node?`,
`outgoing` and `incoming`, which are described by the lemmas at the end. -/

namespace RelGraph

structure Node where
  id : String
  kind : String
  name : String
  deriving DecidableEq, Repr

/-- A directed edge between two nodes, given by their identifiers. -/
structure Edge where
  source : String
  target : String
  relation : Relation
  deriving DecidableEq

namespace Edge

def isLoop (e : Edge) : Bool := e.source == e.target

/-- The places in `edges` at which `side` gives `id`, in ascending order. -/
def places (edges : Array Edge) (side : Edge → String) (id : String) : List Nat :=
  (List.range edges.size).filter fun p => edges[p]?.map side == some id

theorem places_push (edges : Array Edge) (e : Edge) (side : Edge → String)
    (id : String) :
    places (edges.push e) side id =
      places edges side id ++ if side e = id then [edges.size] else [] := by
  have hold : (List.range edges.size).filter
      (fun p => ((edges.push e)[p]?.map side) == some id) = places edges side id := by
    refine List.filter_congr fun p hp => ?_
    rw [Array.getElem?_push, if_neg (Nat.ne_of_lt (List.mem_range.1 hp))]
  rw [places, Array.size_push, List.range_succ, List.filter_append, hold]
  congr 1
  by_cases h : side e = id <;> simp [h]

theorem filterMap_range_getElem? (edges : List Edge) :
    (List.range edges.length).filterMap (fun p => edges[p]?) = edges := by
  induction edges with
  | nil => rfl
  | cons e rest ih =>
    rw [List.length_cons, List.range_succ_eq_map, List.filterMap_cons_some (b := e) (by simp),
      List.filterMap_map]
    exact congrArg (e :: ·) (by simpa [Function.comp_def] using ih)

theorem filterMap_places (edges : Array Edge) (side : Edge → String) (id : String) :
    (places edges side id).filterMap (fun p => edges[p]?) =
      edges.toList.filter (side · == id) := by
  have hcomm : ∀ l : List Nat,
      (l.filter fun p => edges[p]?.map side == some id).filterMap (fun p => edges[p]?) =
        (l.filterMap fun p => edges[p]?).filter (side · == id) := by
    intro l
    induction l with
    | nil => rfl
    | cons p l ih =>
      rcases h : edges[p]? with _ | e
      · simp [h, ih]
      · by_cases hs : side e = id <;> simp [h, hs, ih]
  rw [places, hcomm, ← filterMap_range_getElem? edges.toList]
  simp

end Edge

/-- The indexes agree with the stored nodes and edges, and edges join stored nodes. -/
structure Graph.Indexed (nodeArray : Array Node) (edgeArray : Array Edge)
    (position : Std.HashMap String Nat) (leaving arriving : Std.HashMap String (Array Nat)) :
    Prop where
  position_eq : ∀ id i, position[id]? = some i ↔ nodeArray[i]?.map Node.id = some id
  leaving_eq : ∀ id, (leaving.getD id #[]).toList = Edge.places edgeArray Edge.source id
  arriving_eq : ∀ id, (arriving.getD id #[]).toList = Edge.places edgeArray Edge.target id
  ends_stored : ∀ e ∈ edgeArray, position.contains e.source ∧ position.contains e.target

/-- A dependency graph with its indexes. -/
structure Graph where
  nodeArray : Array Node
  edgeArray : Array Edge
  position : Std.HashMap String Nat
  leaving : Std.HashMap String (Array Nat)
  arriving : Std.HashMap String (Array Nat)
  indexed : Graph.Indexed nodeArray edgeArray position leaving arriving

namespace Graph

variable {nodeArray : Array Node} {edgeArray : Array Edge} {position : Std.HashMap String Nat}
  {leaving arriving : Std.HashMap String (Array Nat)}

/-! ### Building -/

def empty : Graph :=
  ⟨#[], #[], ∅, ∅, ∅, by simp, by simp [Edge.places], by simp [Edge.places], by simp⟩

instance : EmptyCollection Graph := ⟨empty⟩

instance : Inhabited Graph := ⟨empty⟩

theorem Indexed.lt_size (h : Indexed nodeArray edgeArray position leaving arriving) {id : String}
    {i : Nat} (hi : position[id]? = some i) : i < nodeArray.size :=
  Located.lt_size h.position_eq hi

theorem Indexed.replace (h : Indexed nodeArray edgeArray position leaving arriving) {n : Node}
    {i : Nat} (hi : position[n.id]? = some i) :
    Indexed (nodeArray.set i n (h.lt_size hi)) edgeArray position leaving arriving where
  position_eq id j := by
    rw [h.position_eq, Array.getElem?_set]
    split
    · subst_vars
      rw [(h.position_eq n.id _).1 hi]
      simp
    · rfl
  leaving_eq := h.leaving_eq
  arriving_eq := h.arriving_eq
  ends_stored := h.ends_stored

theorem Indexed.append (h : Indexed nodeArray edgeArray position leaving arriving) {n : Node}
    (hn : position[n.id]? = none) :
    Indexed (nodeArray.push n) edgeArray (position.insert n.id nodeArray.size) leaving
      arriving where
  position_eq := Located.push h.position_eq hn
  leaving_eq := h.leaving_eq
  arriving_eq := h.arriving_eq
  ends_stored e he := by
    obtain ⟨hs, ht⟩ := h.ends_stored e he
    simp [Std.HashMap.contains_insert, hs, ht]

/-- Adds a node. One with the same identifier keeps its place and gets the new kind and name. -/
def addNode (g : Graph) (n : Node) : Graph :=
  match hi : g.position[n.id]? with
  | some i => { g with
      nodeArray := g.nodeArray.set i n (g.indexed.lt_size hi)
      indexed := g.indexed.replace hi }
  | none => { g with
      nodeArray := g.nodeArray.push n
      position := g.position.insert n.id g.nodeArray.size
      indexed := g.indexed.append hi }

/-- An edge can be added only between stored nodes. -/
def addEdge (g : Graph) (source target : String) (relation : Relation) : Except Fault Graph :=
  if hs : g.position.contains source = true then
    if ht : g.position.contains target = true then
      let place := g.edgeArray.size
      .ok { g with
        edgeArray := g.edgeArray.push ⟨source, target, relation⟩
        leaving := g.leaving.insert source ((g.leaving.getD source #[]).push place)
        arriving := g.arriving.insert target ((g.arriving.getD target #[]).push place)
        indexed :=
          { position_eq := g.indexed.position_eq
            leaving_eq := fun id => by
              rw [Edge.places_push, ← g.indexed.leaving_eq, Std.HashMap.getD_insert]
              by_cases h : source = id <;> simp [h, place]
            arriving_eq := fun id => by
              rw [Edge.places_push, ← g.indexed.arriving_eq, Std.HashMap.getD_insert]
              by_cases h : target = id <;> simp [h, place]
            ends_stored := fun e he => by
              rcases Array.mem_push.1 he with he | rfl
              · exact g.indexed.ends_stored e he
              · exact ⟨hs, ht⟩ } }
    else .error (.unknownNode target)
  else .error (.unknownNode source)

/-! ### Views -/

def nodes (g : Graph) : List Node := g.nodeArray.toList

def edges (g : Graph) : List Edge := g.edgeArray.toList

/-- Node identifiers in the order of the nodes. -/
def ids (g : Graph) : List String := g.nodes.map Node.id

def node? (g : Graph) (id : String) : Option Node :=
  g.position[id]?.bind fun i => g.nodeArray[i]?

def contains (g : Graph) (id : String) : Bool := (g.node? id).isSome

def edgesAt (g : Graph) (places : Array Nat) : List Edge :=
  places.toList.filterMap fun p => g.edgeArray[p]?

/-- The edges that leave a node, in the order of their insertion. -/
def outgoing (g : Graph) (id : String) : List Edge := g.edgesAt (g.leaving.getD id #[])

/-- The edges that arrive at a node, in the order of their insertion. -/
def incoming (g : Graph) (id : String) : List Edge := g.edgesAt (g.arriving.getD id #[])

/-! ### The views by the two lists -/

theorem outgoing_eq_filter (g : Graph) (id : String) :
    g.outgoing id = g.edges.filter (·.source == id) := by
  rw [outgoing, edgesAt, g.indexed.leaving_eq, Edge.filterMap_places]; rfl

theorem incoming_eq_filter (g : Graph) (id : String) :
    g.incoming id = g.edges.filter (·.target == id) := by
  rw [incoming, edgesAt, g.indexed.arriving_eq, Edge.filterMap_places]; rfl

theorem position_contains_iff (g : Graph) (id : String) :
    g.position.contains id = true ↔ id ∈ g.ids :=
  Located.contains_iff g.indexed.position_eq

/-- Both ends of an edge are nodes. -/
theorem ends_mem_ids (g : Graph) {e : Edge} (he : e ∈ g.edges) :
    e.source ∈ g.ids ∧ e.target ∈ g.ids := by
  obtain ⟨hs, ht⟩ := g.indexed.ends_stored e (Array.mem_toList_iff.1 he)
  exact ⟨(g.position_contains_iff _).1 hs, (g.position_contains_iff _).1 ht⟩

end Graph

end RelGraph
