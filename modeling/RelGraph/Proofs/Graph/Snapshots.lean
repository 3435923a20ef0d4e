import RelGraph.Proofs.Catalog
import RelGraph.Proofs.Graph.History
import RelGraph.Snapshot
import RelGraph.Walk

/-! Graphs that are rebuilt from their snapshots. Whatever calls made a graph, its snapshot replays
another history: every node once and as it is now, and then every edge. A graph can be asked for
nothing but what its two lists say, so it is enough that the replay ends with the same two lists.
The nodes are distinct, so each of them is appended; the ends of an edge are nodes, and the catalog
gives its relation back, so no edge is refused. -/

namespace RelGraph

namespace Graph

variable {g h : Graph}

/-! ### Graphs with the same lists -/

/-- Nothing that a graph can be asked tells the two graphs apart. -/
structure Alike (g h : Graph) : Prop where
  nodes_eq : h.nodes = g.nodes
  edges_eq : h.edges = g.edges
  node?_eq : ∀ id, h.node? id = g.node? id
  contains_eq : ∀ id, h.contains id = g.contains id
  outgoing_eq : ∀ id, h.outgoing id = g.outgoing id
  incoming_eq : ∀ id, h.incoming id = g.incoming id
  successors_eq : ∀ p id, h.successors p id = g.successors p id
  predecessors_eq : ∀ p id, h.predecessors p id = g.predecessors p id
  degree_eq : ∀ p mode id, h.degree p mode id = g.degree p mode id
  acceptedEdges_eq : ∀ p, h.acceptedEdges p = g.acceptedEdges p
  subgraphEdges_eq : ∀ p among, h.subgraphEdges p among = g.subgraphEdges p among
  reachable_eq : ∀ p roots, h.reachable p roots = g.reachable p roots

/-- A search asks a graph for nothing but the successors of nodes. -/
theorem explore_congr {p : Policy} (hsucc : ∀ id, h.successors p id = g.successors p id)
    (seen queue : List String) : h.explore p seen queue = g.explore p seen queue := by
  induction seen, queue using explore.induct g p with
  | case1 seen => rw [explore, explore]
  | case2 seen u queue new ih =>
    rw [explore, explore, hsucc u]
    exact ih

theorem Alike.of_lists (hnodes : h.nodes = g.nodes) (hedges : h.edges = g.edges) :
    Alike g h := by
  have hids : h.ids = g.ids := congrArg (List.map Node.id) hnodes
  have hnode : ∀ id, h.node? id = g.node? id := by
    intro id
    rw [node?_eq_find?, node?_eq_find?, hnodes]
  have hcontains : ∀ id, h.contains id = g.contains id := by
    intro id
    rw [contains, contains, hnode id]
  have hout : ∀ id, h.outgoing id = g.outgoing id := by
    intro id
    rw [outgoing_eq_filter, outgoing_eq_filter, hedges]
  have hin : ∀ id, h.incoming id = g.incoming id := by
    intro id
    rw [incoming_eq_filter, incoming_eq_filter, hedges]
  have hincident : ∀ id, h.incident id = g.incident id := by
    intro id
    rw [incident, incident, hout id, hin id]
  have hsucc : ∀ p id, h.successors p id = g.successors p id := by
    intro p id
    rw [successors, successors, hincident id]
  refine ⟨hnodes, hedges, hnode, hcontains, hout, hin, hsucc, ?_, ?_, ?_, ?_, ?_⟩
  · intro p id
    rw [predecessors, predecessors, hincident id]
  · intro p mode id
    rw [degree, degree, hincident id]
  · intro p
    rw [acceptedEdges, acceptedEdges, hids, funext hout]
  · intro p among
    rw [subgraphEdges, subgraphEdges, funext hout]
  · intro p roots
    rw [reachable, reachable, funext hcontains]
    exact explore_congr (hsucc p) _ _

/-! ### The replay of the nodes -/

theorem edges_foldl_addNode (g : Graph) (nodes : List Node) :
    (nodes.foldl addNode g).edges = g.edges := by
  induction nodes generalizing g with
  | nil => rfl
  | cons n rest ih => rw [List.foldl_cons, ih, edges_addNode]

/-- Nodes with new and distinct identifiers are all appended. -/
theorem nodes_foldl_addNode (g : Graph) {nodes : List Node} (hnodup : (nodes.map Node.id).Nodup)
    (hnew : ∀ n ∈ nodes, n.id ∉ g.ids) : (nodes.foldl addNode g).nodes = g.nodes ++ nodes := by
  induction nodes generalizing g with
  | nil => simp
  | cons n rest ih =>
    rw [List.map_cons, List.nodup_cons] at hnodup
    obtain ⟨hn, hrest⟩ := hnodup
    have hnid : n.id ∉ g.ids := hnew n List.mem_cons_self
    have hstep : (g.addNode n).nodes = g.nodes ++ [n] := by
      rw [nodes_addNode, if_neg hnid]
    have hids : (g.addNode n).ids = g.ids ++ [n.id] := by
      rw [ids_addNode, if_neg hnid]
    rw [List.foldl_cons, ih _ hrest, hstep, List.append_assoc]
    · rfl
    · intro m hm hid
      rw [hids, List.mem_append, List.mem_singleton] at hid
      rcases hid with hid | hid
      · exact hnew m (List.mem_cons_of_mem _ hm) hid
      · exact hn (hid ▸ List.mem_map_of_mem hm)

/-- The nodes of a graph are added to the empty graph as they are. -/
theorem nodes_replay (g : Graph) : (g.nodes.foldl addNode ∅).nodes = g.nodes :=
  nodes_foldl_addNode ∅ g.nodup_ids fun _ _ => List.not_mem_nil

theorem ids_replay (g : Graph) : (g.nodes.foldl addNode ∅).ids = g.ids :=
  congrArg (List.map Node.id) g.nodes_replay

theorem edges_replay (g : Graph) : (g.nodes.foldl addNode ∅).edges = [] :=
  edges_foldl_addNode ∅ g.nodes

end Graph

/-! ### The replay of the edges -/

namespace Snapshot

open RelGraph.Graph

/-- The catalog gives the relation of the edge back under its identifier. -/
def Bound (c : Catalog) (e : Edge) : Prop :=
  ∃ r, c.get? e.relation.id = some r ∧ r.forward = e.relation.forward ∧
    r.reverse = e.relation.reverse

theorem resolve_of_bound {c : Catalog} {e : Edge} (h : Bound c e) :
    Catalog.resolve c e.relation.id = .ok e.relation := by
  obtain ⟨r, hr, hforward, hreverse⟩ := h
  obtain ⟨hmem, hid⟩ := Listing.find?_eq_some_iff.1 hr
  have hrel : r = e.relation :=
    Relation.ext_of_sameLabels hid (by simp [Relation.sameLabels, hforward, hreverse])
  exact Catalog.resolve_eq_ok.2 ⟨hrel ▸ hmem, rfl⟩

/-- The record of an edge between nodes of the graph adds this edge. -/
theorem addRecord_record {c : Catalog} {g : Graph} {e : Edge} (hbound : Bound c e)
    (hsource : e.source ∈ g.ids) (htarget : e.target ∈ g.ids) :
    ∃ g', addRecord c g e.record = .ok g' ∧ g'.nodes = g.nodes ∧ g'.edges = g.edges ++ [e] := by
  obtain ⟨g', hg⟩ := addEdge_ok_iff (r := e.relation).2 ⟨hsource, htarget⟩
  refine ⟨g', ?_, nodes_of_addEdge hg, edges_of_addEdge hg⟩
  rw [addRecord, Outcome.bind_eq_ok]
  exact ⟨e.relation, resolve_of_bound hbound, hg⟩

theorem foldlM_addRecord {c : Catalog} {g : Graph} {edges : List Edge}
    (hbound : ∀ e ∈ edges, Bound c e)
    (hends : ∀ e ∈ edges, e.source ∈ g.ids ∧ e.target ∈ g.ids) :
    ∃ g', (edges.map Edge.record).foldlM (addRecord c) g = .ok g' ∧
      g'.nodes = g.nodes ∧ g'.edges = g.edges ++ edges := by
  induction edges generalizing g with
  | nil => exact ⟨g, rfl, rfl, by simp⟩
  | cons e rest ih =>
    obtain ⟨hsource, htarget⟩ := hends e List.mem_cons_self
    obtain ⟨g₁, hstep, hnodes₁, hedges₁⟩ :=
      addRecord_record (hbound e List.mem_cons_self) hsource htarget
    have hids : g₁.ids = g.ids := congrArg (List.map Node.id) hnodes₁
    obtain ⟨g₂, hrest, hnodes₂, hedges₂⟩ := ih (g := g₁)
      (fun d hd => hbound d (List.mem_cons_of_mem _ hd))
      (fun d hd => hids ▸ hends d (List.mem_cons_of_mem _ hd))
    refine ⟨g₂, ?_, hnodes₂.trans hnodes₁, ?_⟩
    · rw [List.map_cons, List.foldlM_cons, Outcome.bind_eq_ok]
      exact ⟨g₁, hstep, hrest⟩
    · rw [hedges₂, hedges₁, List.append_assoc]
      rfl

/-! ### Snapshots of graphs -/

/-- The snapshot of a graph resolves, to a graph with the same lists. -/
theorem resolve_lists {g : Graph} {c : Catalog} (hbound : ∀ e ∈ g.edges, Bound c e) :
    ∃ g', g.snapshot.resolve c = .ok g' ∧ g'.nodes = g.nodes ∧ g'.edges = g.edges := by
  obtain ⟨g', hresolve, hnodes, hedges⟩ := foldlM_addRecord (g := g.nodes.foldl addNode ∅)
    hbound fun e he => g.ids_replay ▸ g.ends_mem_ids he
  refine ⟨g', hresolve, hnodes.trans g.nodes_replay, ?_⟩
  rw [hedges, edges_replay, List.nil_append]

/-- After any history of calls, the snapshot of the graph resolves against every catalog that binds
the relations of its edges to their labels, and nothing tells the rebuilt graph from the graph. -/
theorem resolve_snapshot_ofCalls (calls : List Call) (c : Catalog)
    (hbound : ∀ e ∈ (ofCalls calls).edges, Bound c e) :
    ∃ g', (ofCalls calls).snapshot.resolve c = .ok g' ∧ Alike (ofCalls calls) g' := by
  obtain ⟨g', hresolve, hnodes, hedges⟩ := resolve_lists hbound
  exact ⟨g', hresolve, Alike.of_lists hnodes hedges⟩

def sampleRelation : Relation := ⟨"calls", "calls", "called by", rfl⟩

/-- A node that is added again between two parallel edges, a loop, and an edge that is refused. -/
def sampleCalls : List Call :=
  [.node ⟨"a", "function", "a"⟩, .node ⟨"b", "function", "b"⟩, .edge "a" "b" sampleRelation,
    .node ⟨"a", "module", "A"⟩, .edge "a" "b" sampleRelation, .edge "b" "b" sampleRelation,
    .edge "a" "c" sampleRelation]

theorem edges_ofCalls_sample : (ofCalls sampleCalls).edges =
    [⟨"a", "b", sampleRelation⟩, ⟨"a", "b", sampleRelation⟩, ⟨"b", "b", sampleRelation⟩] :=
  (records_ofCalls sampleCalls).edges_eq

theorem resolve_snapshot_ofCalls_sample :
    (∀ e ∈ (ofCalls sampleCalls).edges, Bound (Listing.ofList [sampleRelation]) e) ∧
      ∃ g', (ofCalls sampleCalls).snapshot.resolve (Listing.ofList [sampleRelation]) = .ok g' ∧
        Alike (ofCalls sampleCalls) g' := by
  have hbound : ∀ e ∈ (ofCalls sampleCalls).edges,
      Bound (Listing.ofList [sampleRelation]) e := by
    intro e he
    rw [edges_ofCalls_sample] at he
    have hrelation : e.relation = sampleRelation := by
      simp only [List.mem_cons, List.not_mem_nil, or_false] at he
      rcases he with rfl | rfl | rfl <;> rfl
    rw [Bound, hrelation]
    exact ⟨sampleRelation, rfl, rfl, rfl⟩
  exact ⟨hbound, resolve_snapshot_ofCalls sampleCalls _ hbound⟩

end Snapshot

end RelGraph
