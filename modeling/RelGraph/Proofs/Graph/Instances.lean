import Mathlib.Data.List.Perm.Basic
import RelGraph.Proofs.Graph.Discovery

/-! The stored edges among listed nodes, one by one. Two parallel edges are the same when they are
looked at by themselves and differ in their place in the list of edges, so an instance is an edge
with its place. The edges among the nodes of a list are strictly sorted, by the first place of their
source in that list and then by their own place, and therefore none of them is listed twice. -/

namespace RelGraph.Graph

variable {g : Graph} {p : Policy} {among : List String}

/-- The stored edges with their places. -/
def instances (g : Graph) : List (Edge × ℕ) := g.edges.zipIdx

/-- The instances of the open edges among the listed nodes, by source in the order of the list. -/
def subgraphInstances (g : Graph) (p : Policy) (among : List String) : List (Edge × ℕ) :=
  (fresh [] among).flatMap fun id => g.instances.filter fun a =>
    (among.contains a.1.target && p.accepts a.1.relation) && a.1.source == id

/-- Instances from an earlier source come first, and those from one source as they were added. -/
def ListedBefore (among : List String) (a b : Edge × ℕ) : Prop :=
  among.idxOf a.1.source < among.idxOf b.1.source ∨ a.1.source = b.1.source ∧ a.2 < b.2

theorem mem_instances {e : Edge} {k : ℕ} : (e, k) ∈ g.instances ↔ g.edges[k]? = some e :=
  List.mk_mem_zipIdx_iff_getElem?

theorem map_fst_instances (g : Graph) : g.instances.map Prod.fst = g.edges :=
  List.zipIdx_map_fst 0 g.edges

theorem pairwise_instances (g : Graph) : g.instances.Pairwise fun a b => a.2 < b.2 := by
  rw [← List.pairwise_map (f := Prod.snd) (R := (· < ·)), instances, List.zipIdx_map_snd]
  exact List.pairwise_lt_range'

theorem mem_subgraphInstances {e : Edge} {k : ℕ} : (e, k) ∈ g.subgraphInstances p among ↔
    g.edges[k]? = some e ∧ p.accepts e.relation = true ∧ e.source ∈ among ∧ e.target ∈ among := by
  simp only [subgraphInstances, List.mem_flatMap, List.mem_filter, mem_instances, mem_fresh,
    Bool.and_eq_true, beq_iff_eq, List.contains_iff_mem]
  constructor
  · rintro ⟨id, ⟨hs, -⟩, he, ⟨ht, hopen⟩, rfl⟩
    exact ⟨he, hopen, hs, ht⟩
  · rintro ⟨he, hopen, hs, ht⟩
    exact ⟨e.source, ⟨hs, List.not_mem_nil⟩, he, ⟨ht, hopen⟩, rfl⟩

theorem map_fst_subgraphInstances (g : Graph) (p : Policy) (among : List String) :
    (g.subgraphInstances p among).map Prod.fst = g.subgraphEdges p among := by
  rw [subgraphInstances, subgraphEdges, List.map_flatMap, List.filter_flatMap]
  congr 1
  funext id
  rw [outgoing_eq_filter, List.filter_filter, ← map_fst_instances, List.filter_map]
  rfl

theorem source_of_mem_filter {q : Edge × ℕ → Bool} {id : String} {a : Edge × ℕ}
    (h : a ∈ g.instances.filter fun a => q a && a.1.source == id) : a.1.source = id := by
  have hq := (List.mem_filter.1 h).2
  rw [Bool.and_eq_true, beq_iff_eq] at hq
  exact hq.2

theorem pairwise_subgraphInstances (g : Graph) (p : Policy) (among : List String) :
    (g.subgraphInstances p among).Pairwise (ListedBefore among) := by
  rw [subgraphInstances, List.pairwise_flatMap]
  constructor
  · -- one source: the places ascend as they do in the whole list
    intro id _
    refine (g.pairwise_instances.filter _).imp_of_mem fun ha hb hlt => .inr ⟨?_, hlt⟩
    rw [source_of_mem_filter ha, source_of_mem_filter hb]
  · -- two sources: the earlier one is listed first
    refine (pairwise_idxOf_fresh [] among).imp fun hlt a ha b hb => .inl ?_
    rwa [source_of_mem_filter ha, source_of_mem_filter hb]

theorem nodup_subgraphInstances (g : Graph) (p : Policy) (among : List String) :
    (g.subgraphInstances p among).Nodup := by
  refine (g.pairwise_subgraphInstances p among).imp ?_
  rintro a b (hlt | ⟨-, hlt⟩) rfl
  · exact Nat.lt_irrefl _ hlt
  · exact Nat.lt_irrefl _ hlt

/-! ### As lists of edges -/

theorem nodup_instances (g : Graph) : g.instances.Nodup := by
  refine g.pairwise_instances.imp ?_
  rintro a b hlt rfl
  exact Nat.lt_irrefl _ hlt

/-- The edges among the listed nodes, in another order, are the stored edges that are open and have
both ends in the list. -/
theorem subgraphEdges_perm (g : Graph) (p : Policy) (among : List String) :
    (g.subgraphEdges p among).Perm (g.edges.filter fun e =>
      p.accepts e.relation && (among.contains e.source && among.contains e.target)) := by
  have hinstances : (g.subgraphInstances p among).Perm (g.instances.filter fun a =>
      p.accepts a.1.relation && (among.contains a.1.source && among.contains a.1.target)) := by
    refine (List.perm_ext_iff_of_nodup (g.nodup_subgraphInstances p among)
      (g.nodup_instances.filter _)).2 fun (e, k) => ?_
    rw [mem_subgraphInstances, List.mem_filter, mem_instances]
    simp only [Bool.and_eq_true, List.contains_iff_mem]
  have hedges := hinstances.map Prod.fst
  rw [map_fst_subgraphInstances] at hedges
  rw [← map_fst_instances, List.filter_map]
  exact hedges

theorem fresh_of_nodup {seen l : List String} (hnodup : l.Nodup) (hnew : ∀ v ∈ l, v ∉ seen) :
    fresh seen l = l := by
  induction l generalizing seen with
  | nil => rfl
  | cons v rest ih =>
    obtain ⟨hv, hrest⟩ := List.nodup_cons.1 hnodup
    rw [fresh, if_neg (hnew v List.mem_cons_self), ih hrest]
    intro w hw hseen
    rcases List.mem_cons.1 hseen with rfl | hseen
    · exact hv hw
    · exact hnew w (List.mem_cons_of_mem v hw) hseen

/-- Among all nodes the open edges are all there, in the same order. -/
theorem subgraphEdges_ids (g : Graph) (p : Policy) :
    g.subgraphEdges p g.ids = g.acceptedEdges p := by
  rw [subgraphEdges, acceptedEdges, fresh_of_nodup g.nodup_ids fun _ _ => List.not_mem_nil]
  refine List.filter_congr fun e he => ?_
  obtain ⟨id, -, he⟩ := List.mem_flatMap.1 he
  rw [outgoing_eq_filter, List.mem_filter] at he
  rw [List.contains_iff_mem.2 (g.ends_mem_ids he.1).2, Bool.true_and]

theorem acceptedEdges_perm (g : Graph) (p : Policy) :
    (g.acceptedEdges p).Perm (g.edges.filter fun e => p.accepts e.relation) := by
  have hends : ∀ e ∈ g.edges, (p.accepts e.relation &&
      (g.ids.contains e.source && g.ids.contains e.target)) = p.accepts e.relation := by
    intro e he
    obtain ⟨hs, ht⟩ := g.ends_mem_ids he
    rw [List.contains_iff_mem.2 hs, List.contains_iff_mem.2 ht, Bool.and_self, Bool.and_true]
  rw [← subgraphEdges_ids, ← List.filter_congr hends]
  exact g.subgraphEdges_perm p g.ids

/-! ### The whole -/

/-- The edges among the listed nodes are the instances that are open and have both ends in the list,
each once, by the first place of the source in the list and then by their own place. The accepted
edges are the open instances in another order, each once, and the same list as the edges among all
nodes. -/
theorem subgraphEdges_instances (g : Graph) (p : Policy) :
    (∀ among, ∃ picked : List (Edge × ℕ), picked.map Prod.fst = g.subgraphEdges p among ∧
      picked.Nodup ∧
      (∀ e k, (e, k) ∈ picked ↔ g.edges[k]? = some e ∧ p.accepts e.relation = true ∧
        e.source ∈ among ∧ e.target ∈ among) ∧
      picked.Pairwise (ListedBefore among)) ∧
    (g.acceptedEdges p).Perm (g.edges.filter fun e => p.accepts e.relation) ∧
    g.subgraphEdges p g.ids = g.acceptedEdges p := by
  refine ⟨fun among => ?_, g.acceptedEdges_perm p, g.subgraphEdges_ids p⟩
  exact ⟨g.subgraphInstances p among, g.map_fst_subgraphInstances p among,
    g.nodup_subgraphInstances p among, fun _ _ => mem_subgraphInstances,
    g.pairwise_subgraphInstances p among⟩

end RelGraph.Graph
