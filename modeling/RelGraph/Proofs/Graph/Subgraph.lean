import RelGraph.Proofs.Graph.Reachability
import RelGraph.Proofs.Graph.Snapshots

/-! The edges that explain what is reachable. Among the reached nodes a search has the edges that
are open in some direction; an edge that leaves a reached node in an open direction leads to a
reached node, so all of these are among them. Every chain of steps from a root goes along such
edges, and a graph that has no other edges is searched with the same result. -/

namespace RelGraph.Graph

variable {g : Graph} {p : Policy} {roots : List String}

/-! ### Graphs with fewer edges -/

/-- The graph with the same nodes and, one after the other, the listed edges. -/
def withEdges (g : Graph) (edges : List Edge) : Graph :=
  ofCalls (g.nodes.map .node ++ edges.map fun e => .edge e.source e.target e.relation)

/-- Calls that add edges between nodes of a graph are all taken. -/
theorem lists_foldl_call {edges : List Edge}
    (hends : ∀ e ∈ edges, e.source ∈ g.ids ∧ e.target ∈ g.ids) :
    ((edges.map fun e => Call.edge e.source e.target e.relation).foldl call g).nodes = g.nodes ∧
      ((edges.map fun e => Call.edge e.source e.target e.relation).foldl call g).edges =
        g.edges ++ edges := by
  induction edges generalizing g with
  | nil => simp
  | cons e rest ih =>
    obtain ⟨he, hrest⟩ := List.forall_mem_cons.1 hends
    obtain ⟨g', hg⟩ := addEdge_ok_iff (r := e.relation).2 he
    have hcall : g.call (.edge e.source e.target e.relation) = g' := by rw [call, hg]
    have hids : g'.ids = g.ids := congrArg (List.map Node.id) (nodes_of_addEdge hg)
    obtain ⟨hnodes, hedges⟩ := ih (g := g') (hids ▸ hrest)
    rw [List.map_cons, List.foldl_cons, hcall, hnodes, hedges, nodes_of_addEdge hg,
      edges_of_addEdge hg, List.append_assoc]
    exact ⟨rfl, rfl⟩

theorem lists_withEdges {edges : List Edge}
    (hends : ∀ e ∈ edges, e.source ∈ g.ids ∧ e.target ∈ g.ids) :
    (g.withEdges edges).nodes = g.nodes ∧ (g.withEdges edges).edges = edges := by
  have hfold : (g.nodes.map Call.node).foldl call ∅ = g.nodes.foldl addNode ∅ := List.foldl_map
  obtain ⟨hnodes, hedges⟩ := lists_foldl_call (g := g.nodes.foldl addNode ∅)
    (g.ids_replay.symm ▸ hends)
  rw [withEdges, ofCalls, List.foldl_append, hfold, hnodes, hedges, nodes_replay, edges_replay]
  exact ⟨rfl, rfl⟩

/-! ### The edges among nodes -/

theorem mem_subgraphEdges {among : List String} {e : Edge} :
    e ∈ g.subgraphEdges p among ↔ e ∈ g.edges ∧ e.source ∈ among ∧ e.target ∈ among ∧
      p.accepts e.relation = true := by
  simp only [subgraphEdges, List.mem_filter, List.mem_flatMap, mem_fresh, outgoing_eq_filter,
    List.not_mem_nil, not_false_eq_true, and_true, beq_iff_eq, Bool.and_eq_true,
    List.contains_iff_mem]
  constructor
  · rintro ⟨⟨_, hsource, he, rfl⟩, htarget, haccepts⟩
    exact ⟨he, hsource, htarget, haccepts⟩
  · rintro ⟨he, hsource, htarget, haccepts⟩
    exact ⟨⟨_, hsource, he, rfl⟩, htarget, haccepts⟩

/-! ### The edges among reached nodes -/

theorem mem_subgraphEdges_of_forward {e : Edge} (he : e ∈ g.edges)
    (hsource : e.source ∈ g.reachable p roots) (hopen : p.allowsForward e.relation = true) :
    e ∈ g.subgraphEdges p (g.reachable p roots) := by
  have hstep : g.Step p e.source e.target := ⟨e, he, .inl ⟨rfl, rfl, hopen⟩⟩
  have haccepts : p.accepts e.relation = true := by simp [Policy.accepts, hopen]
  exact mem_subgraphEdges.2 ⟨he, hsource, mem_reachable_of_step hsource hstep, haccepts⟩

theorem mem_subgraphEdges_of_reverse {e : Edge} (he : e ∈ g.edges)
    (htarget : e.target ∈ g.reachable p roots) (hopen : p.allowsReverse e.relation = true) :
    e ∈ g.subgraphEdges p (g.reachable p roots) := by
  have hstep : g.Step p e.target e.source := ⟨e, he, .inr ⟨rfl, rfl, hopen⟩⟩
  have haccepts : p.accepts e.relation = true := by simp [Policy.accepts, hopen]
  exact mem_subgraphEdges.2 ⟨he, mem_reachable_of_step htarget hstep, htarget, haccepts⟩

/-- A step from a reached node is a step of every graph that has the edges among reached nodes. -/
theorem Step.of_subgraphEdges {h : Graph} {u v : String}
    (hedges : h.edges = g.subgraphEdges p (g.reachable p roots)) (hu : u ∈ g.reachable p roots)
    (hstep : g.Step p u v) : h.Step p u v := by
  obtain ⟨e, he, ⟨rfl, rfl, hopen⟩ | ⟨rfl, rfl, hopen⟩⟩ := hstep
  · exact ⟨e, hedges ▸ mem_subgraphEdges_of_forward he hu hopen, .inl ⟨rfl, rfl, hopen⟩⟩
  · exact ⟨e, hedges ▸ mem_subgraphEdges_of_reverse he hu hopen, .inr ⟨rfl, rfl, hopen⟩⟩

/-- A step needs an edge and an open direction, so it is there in every graph with more edges. -/
theorem Step.mono {h : Graph} {u v : String} (hedges : ∀ e ∈ h.edges, e ∈ g.edges)
    (hstep : h.Step p u v) : g.Step p u v := by
  obtain ⟨e, he, hopen⟩ := hstep
  exact ⟨e, hedges e he, hopen⟩

/-- A graph with the same nodes, and of the edges those among the reached nodes, is searched with
the same result. -/
theorem mem_reachable_of_subgraphEdges {h : Graph} {v : String} (hids : h.ids = g.ids)
    (hedges : h.edges = g.subgraphEdges p (g.reachable p roots)) :
    v ∈ h.reachable p roots ↔ v ∈ g.reachable p roots := by
  constructor
  · intro hv
    obtain ⟨r, hr, hrv⟩ := mem_reachable_iff.1 hv
    have hsub : ∀ e ∈ h.edges, e ∈ g.edges := fun e he => (mem_subgraphEdges.1 (hedges ▸ he)).1
    exact mem_reachable_iff.2 ⟨r, hids ▸ hr,
      Relation.ReflTransGen.mono (fun _ _ => Step.mono hsub) r v hrv⟩
  · intro hv
    obtain ⟨r, hr, hrv⟩ := mem_reachable_iff.1 hv
    refine mem_reachable_iff.2 ⟨r, hids.symm ▸ hr, ?_⟩
    -- every node on the way is reached, so the way goes along the edges among reached nodes
    induction hrv with
    | refl => exact .refl
    | @tail u w hru hstep ih =>
      have hu : u ∈ g.reachable p roots := mem_reachable_iff.2 ⟨r, hr, hru⟩
      exact (ih hu).tail (hstep.of_subgraphEdges hedges hu)

/-! ### The whole -/

/-- The edges among the reached nodes explain what is reached. Every edge along which an open
direction leaves a reached node is one of them, both ends of each are reached, and a graph with the
same nodes and no other edges, which there is, reaches the same nodes from the same roots. -/
theorem subgraphEdges_reachable (g : Graph) (p : Policy) (roots : List String) :
    (∀ e ∈ g.edges, p.allowsForward e.relation = true → e.source ∈ g.reachable p roots →
      e ∈ g.subgraphEdges p (g.reachable p roots)) ∧
    (∀ e ∈ g.edges, p.allowsReverse e.relation = true → e.target ∈ g.reachable p roots →
      e ∈ g.subgraphEdges p (g.reachable p roots)) ∧
    (∀ e ∈ g.subgraphEdges p (g.reachable p roots), e ∈ g.edges ∧
      e.source ∈ g.reachable p roots ∧ e.target ∈ g.reachable p roots) ∧
    (∃ h : Graph, h.nodes = g.nodes ∧ h.edges = g.subgraphEdges p (g.reachable p roots)) ∧
    ∀ h : Graph, h.nodes = g.nodes → h.edges = g.subgraphEdges p (g.reachable p roots) →
      ∀ v, v ∈ h.reachable p roots ↔ v ∈ g.reachable p roots := by
  have hfound : ∀ e ∈ g.subgraphEdges p (g.reachable p roots), e ∈ g.edges ∧
      e.source ∈ g.reachable p roots ∧ e.target ∈ g.reachable p roots := by
    intro e he
    obtain ⟨hedge, hsource, htarget, -⟩ := mem_subgraphEdges.1 he
    exact ⟨hedge, hsource, htarget⟩
  refine ⟨?_, ?_, hfound, ?_, ?_⟩
  · intro e he hopen hsource
    exact mem_subgraphEdges_of_forward he hsource hopen
  · intro e he hopen htarget
    exact mem_subgraphEdges_of_reverse he htarget hopen
  · exact ⟨_, lists_withEdges fun e he => g.ends_mem_ids (hfound e he).1⟩
  · intro h hnodes hedges v
    exact mem_reachable_of_subgraphEdges (congrArg (List.map Node.id) hnodes) hedges

open Snapshot in
theorem subgraphEdges_reachable_sample :
    let g := ofCalls sampleCalls
    let p : Policy := ⟨fun _ _ => true⟩
    let e : Edge := ⟨"a", "b", sampleRelation⟩
    let reached := g.reachable p ["b", "missing", "b"]
    e ∈ g.edges ∧ p.allowsForward e.relation = true ∧ p.allowsReverse e.relation = true ∧
      e.source ∈ reached ∧ e.target ∈ reached ∧ e ∈ g.subgraphEdges p reached ∧
      ∃ h : Graph, h.nodes = g.nodes ∧ h.edges = g.subgraphEdges p reached ∧
        ∀ v, v ∈ h.reachable p ["b", "missing", "b"] ↔ v ∈ reached := by
  intro g p e reached
  have he : e ∈ g.edges := by
    rw [edges_ofCalls_sample]
    exact List.mem_cons_self
  have htarget : e.target ∈ reached :=
    mem_reachable_iff.2 ⟨"b", ⟨List.mem_cons_self, (g.ends_mem_ids he).2⟩, .refl⟩
  obtain ⟨hforward, hreverse, hends, ⟨h, hnodes, hedges⟩, hsame⟩ :=
    subgraphEdges_reachable g p ["b", "missing", "b"]
  have hmem : e ∈ g.subgraphEdges p reached := hreverse e he rfl htarget
  have hsource : e.source ∈ reached := (hends e hmem).2.1
  exact ⟨he, rfl, rfl, hsource, htarget, hforward e he rfl hsource, h, hnodes, hedges,
    hsame h hnodes hedges⟩

end RelGraph.Graph
