import Mathlib.Algebra.BigOperators.Group.List.Basic
import Mathlib.Algebra.GroupWithZero.Nat
import RelGraph.Proofs.Graph.Neighbours

/-! Degrees, at one node and summed over all nodes. A degree is the number of stored edges that a
mode selects at the node. Summed over the nodes, an edge is counted at each of its ends that the
mode selects, so the sum over the nodes is a sum over the edges; the nodes are distinct and the ends
of every edge are among them, so no end is missed and none is counted again. -/

namespace RelGraph

/-! ### Counting -/

theorem countP_le_add {α : Type} {q r s : α → Bool} {l : List α}
    (h : ∀ a ∈ l, q a = true → r a = true ∨ s a = true) :
    l.countP q ≤ l.countP r + l.countP s := by
  induction l with
  | nil => simp
  | cons a rest ih =>
    obtain ⟨ha, hrest⟩ := List.forall_mem_cons.1 h
    have := ih hrest
    rw [List.countP_cons, List.countP_cons, List.countP_cons]
    by_cases hq : q a = true
    · rcases ha hq with hr | hs
      · simp only [hq, hr, if_true]
        omega
      · simp only [hq, hs, if_true]
        omega
    · rw [if_neg hq]
      omega

/-- Pairs of entries are counted from either side. -/
theorem sum_map_countP {α β : Type} (l : List α) (m : List β) (q : α → β → Bool) :
    (l.map fun a => m.countP (q a)).sum = (m.map fun b => l.countP (q · b)).sum := by
  induction l with
  | nil => simp
  | cons a rest ih =>
    have ha : m.countP (q a) = (m.map fun b => if q a b = true then 1 else 0).sum := by
      simp [List.sum_map_ite, List.countP_eq_length_filter]
    simp only [List.map_cons, List.sum_cons, List.countP_cons, List.sum_map_add]
    rw [ih, ha, Nat.add_comm]

/-! ### The ends of an edge -/

namespace Edge

/-- The mode selects the edge at the node. -/
def counts (e : Edge) (p : Policy) : DegreeMode → String → Bool
  | .successors, id => e.leaves p id
  | .predecessors, id => e.arrives p id
  | .incident, _ => p.accepts e.relation

/-- The ends of the edge, each once. -/
def ends (e : Edge) : List String := if e.isLoop then [e.source] else [e.source, e.target]

variable {e : Edge} {p : Policy} {id : String}

theorem nodup_ends (e : Edge) : e.ends.Nodup := by
  rw [ends]
  split
  · simp
  · next h => simpa [isLoop] using h

theorem mem_ends : id ∈ e.ends ↔ e.touches id = true := by
  rw [touches_iff, ends]
  split
  · next h =>
    have hloop : e.source = e.target := by simpa [isLoop] using h
    simp [← hloop, eq_comm]
  · simp [eq_comm]

theorem accepts_iff : p.accepts e.relation = true ↔
    p.allowsForward e.relation = true ∨ p.allowsReverse e.relation = true := by
  simp [Policy.accepts]

/-- A walk may leave an end of an open edge along it, or arrive there. -/
theorem leaves_or_arrives (htouches : e.touches id = true) (hopen : p.accepts e.relation = true) :
    e.leaves p id = true ∨ e.arrives p id = true := by
  rw [arrives_eq_leaves_opposite, leaves_iff, leaves_iff]
  rcases touches_iff.1 htouches with hs | ht <;> rcases accepts_iff.1 hopen with hf | hr
  · exact .inl (.inl ⟨hs, hf⟩)
  · exact .inr (.inl ⟨hs, hr⟩)
  · exact .inr (.inr ⟨ht, hf⟩)
  · exact .inl (.inr ⟨ht, hr⟩)

/-- As many ends of an edge can be left along it as can be arrived at. -/
theorem countP_ends_leaves (e : Edge) (p : Policy) :
    e.ends.countP (e.leaves p) = e.ends.countP (e.arrives p) := by
  rw [ends]
  by_cases h : e.source = e.target
  · simp [isLoop, leaves, arrives, h]
  · -- forward it leaves the source and arrives at the target, in reverse the other way round
    have hst := beq_false_of_ne h
    have hts := beq_false_of_ne (Ne.symm h)
    simp [isLoop, leaves, arrives, hst, hts, List.countP_cons, Nat.add_comm]

/-- Where it is open, an edge counts once at each of its ends. -/
theorem countP_ends_incident (e : Edge) (p : Policy) :
    e.ends.countP (e.counts p .incident) =
      2 * (if (p.accepts e.relation && !e.isLoop) = true then 1 else 0) +
        if (p.accepts e.relation && e.isLoop) = true then 1 else 0 := by
  by_cases hopen : p.accepts e.relation = true <;> by_cases hloop : e.isLoop = true <;>
    simp [ends, counts, hopen, hloop]

end Edge

namespace Graph

variable {g : Graph} {p : Policy} {n : String} {e : Edge}

/-! ### At one node -/

theorem degree_eq_countP (g : Graph) (p : Policy) (mode : DegreeMode) (n : String) :
    g.degree p mode n = g.edges.countP fun e => e.counts p mode n && e.touches n := by
  rw [degree, ← countP_incident]
  congr 1
  funext e
  cases mode <;> rfl

theorem degree_successors (g : Graph) (p : Policy) (n : String) :
    g.degree p .successors n = (g.successors p n).length := by
  rw [degree, successors, List.length_map, List.countP_eq_length_filter]

theorem degree_predecessors (g : Graph) (p : Policy) (n : String) :
    g.degree p .predecessors n = (g.predecessors p n).length := by
  rw [degree, predecessors, List.length_map, List.countP_eq_length_filter]

/-- How the degrees at a node are related to each other and to its neighbours. -/
structure DegreesAgree (g : Graph) (p : Policy) (n : String) : Prop where
  successors_eq : g.degree p .successors n = (g.successors p n).length
  predecessors_eq : g.degree p .predecessors n = (g.predecessors p n).length
  incident_eq : g.degree p .incident n =
    g.edges.countP fun e => p.accepts e.relation && e.touches n
  successors_le : g.degree p .successors n ≤ g.degree p .incident n
  predecessors_le : g.degree p .predecessors n ≤ g.degree p .incident n
  incident_le : g.degree p .incident n ≤
    g.degree p .successors n + g.degree p .predecessors n

theorem degreesAgree (g : Graph) (p : Policy) (n : String) : DegreesAgree g p n where
  successors_eq := g.degree_successors p n
  predecessors_eq := g.degree_predecessors p n
  incident_eq := g.degree_eq_countP p .incident n
  successors_le := List.countP_mono_left fun e _ h =>
    Edge.accepts_iff.2 ((Edge.leaves_iff.1 h).imp And.right And.right)
  predecessors_le := List.countP_mono_left fun e _ h => by
    rw [Edge.arrives_eq_leaves_opposite] at h
    exact Edge.accepts_iff.2 ((Edge.leaves_iff.1 h).symm.imp And.right And.right)
  incident_le := countP_le_add fun _ he h =>
    Edge.leaves_or_arrives (Edge.touches_iff.2 (mem_incident.1 he).2) h

/-! ### Over all nodes -/

/-- The nodes that an edge touches are its ends. -/
theorem filter_touches_perm (he : e ∈ g.edges) : (g.ids.filter e.touches).Perm e.ends := by
  refine (List.perm_ext_iff_of_nodup (g.nodup_ids.filter _) e.nodup_ends).2 fun id => ?_
  rw [List.mem_filter, Edge.mem_ends]
  refine ⟨And.right, fun h => ⟨?_, h⟩⟩
  obtain ⟨hs, ht⟩ := g.ends_mem_ids he
  rcases Edge.touches_iff.1 h with rfl | rfl
  · exact hs
  · exact ht

/-- Summed over all nodes, a degree counts the selected ends of every edge. -/
theorem sum_degree (g : Graph) (p : Policy) (mode : DegreeMode) :
    (g.ids.map (g.degree p mode)).sum =
      (g.edges.map fun e => e.ends.countP (e.counts p mode)).sum := by
  have hdegree : g.ids.map (g.degree p mode) =
      g.ids.map fun n => g.edges.countP fun e => e.counts p mode n && e.touches n :=
    List.map_congr_left fun n _ => g.degree_eq_countP p mode n
  -- the same pairs of a node and an edge, counted from the side of the edges
  rw [hdegree, sum_map_countP]
  congr 1
  refine List.map_congr_left fun e he => ?_
  rw [← (filter_touches_perm he).countP_eq, List.countP_filter]

theorem sum_degree_successors (g : Graph) (p : Policy) :
    (g.ids.map (g.degree p .successors)).sum = (g.ids.map (g.degree p .predecessors)).sum := by
  rw [sum_degree, sum_degree]
  congr 1
  exact List.map_congr_left fun e _ => e.countP_ends_leaves p

theorem sum_countP_ends_incident (p : Policy) (edges : List Edge) :
    (edges.map fun e => e.ends.countP (e.counts p .incident)).sum =
      2 * edges.countP (fun e => p.accepts e.relation && !e.isLoop) +
        edges.countP fun e => p.accepts e.relation && e.isLoop := by
  induction edges with
  | nil => rfl
  | cons e rest ih =>
    rw [List.map_cons, List.sum_cons, ih, List.countP_cons, List.countP_cons,
      Edge.countP_ends_incident]
    omega

/-! ### The whole -/

/-- At every node the degrees agree with the neighbours and with each other: an incident edge is one
along which a walk leaves the node or arrives there. Over all nodes together, as many edges are left
along as are arrived along, and the incident edges are counted twice, the loops among them once. -/
theorem degreesAgree_and_sum_degree (g : Graph) (p : Policy) :
    (∀ n, DegreesAgree g p n) ∧
    (g.ids.map (g.degree p .successors)).sum = (g.ids.map (g.degree p .predecessors)).sum ∧
    (g.ids.map (g.degree p .incident)).sum =
      2 * g.edges.countP (fun e => p.accepts e.relation && !e.isLoop) +
        g.edges.countP fun e => p.accepts e.relation && e.isLoop := by
  refine ⟨g.degreesAgree p, g.sum_degree_successors p, ?_⟩
  rw [sum_degree, sum_countP_ends_incident]

end Graph

end RelGraph
