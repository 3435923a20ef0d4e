import Mathlib.Data.List.Perm.Basic
import RelGraph.Proofs.Graph.Duality

/-! How often a node is a neighbour of another one. The edges at a node are the stored edges that
touch it, each once: a loop stands among those that leave the node and is left out of those that
arrive. So a node is listed among the successors of another one once for each stored edge along
which a step leads to it, and the other one just as often among its predecessors. -/

namespace RelGraph

namespace Edge

/-- One of the ends is the node. -/
def touches (e : Edge) (id : String) : Bool := e.source == id || e.target == id

/-- A step from `u` to `v` goes along the edge, in one direction or the other. -/
def leads (e : Edge) (p : Policy) (u v : String) : Bool :=
  (e.source == u && e.target == v && p.allowsForward e.relation) ||
    (e.source == v && e.target == u && p.allowsReverse e.relation)

variable {e : Edge} {p : Policy} {id u v : String}

theorem touches_iff : e.touches id = true ↔ e.source = id ∨ e.target = id := by
  simp [touches]

theorem leaves_iff : e.leaves p id = true ↔
    (e.source = id ∧ p.allowsForward e.relation = true) ∨
      (e.target = id ∧ p.allowsReverse e.relation = true) := by
  simp [leaves]

theorem touches_of_leaves (h : e.leaves p id = true) : e.touches id = true :=
  touches_iff.2 ((leaves_iff.1 h).imp And.left And.left)

/-- An edge leads from a node that a walk may leave along it to the other end. -/
theorem leads_iff : e.leads p u v = true ↔ e.leaves p u = true ∧ e.otherEnd u = v := by
  simp only [leads, leaves_iff, otherEnd, Bool.or_eq_true, Bool.and_eq_true, beq_iff_eq]
  by_cases hs : e.source = u
  · rw [if_pos hs]
    constructor
    · rintro (⟨⟨-, ht⟩, hopen⟩ | ⟨⟨hv, ht⟩, hopen⟩)
      · exact ⟨.inl ⟨hs, hopen⟩, ht⟩
      · -- the edge is a loop, so both directions lead to its node
        exact ⟨.inr ⟨ht, hopen⟩, ht.trans (hs.symm.trans hv)⟩
    · rintro ⟨⟨-, hopen⟩ | ⟨ht, hopen⟩, hv⟩
      · exact .inl ⟨⟨hs, hv⟩, hopen⟩
      · exact .inr ⟨⟨hs.trans (ht.symm.trans hv), ht⟩, hopen⟩
  · rw [if_neg hs]
    constructor
    · rintro (⟨⟨hu, -⟩, -⟩ | ⟨⟨hv, ht⟩, hopen⟩)
      · exact absurd hu hs
      · exact ⟨.inr ⟨ht, hopen⟩, hv⟩
    · rintro ⟨⟨hu, -⟩ | ⟨ht, hopen⟩, hv⟩
      · exact absurd hu hs
      · exact .inr ⟨⟨hv, ht⟩, hopen⟩

theorem leads_opposite (e : Edge) (p : Policy) (u v : String) :
    e.leads p.opposite v u = e.leads p u v := by
  rw [leads, leads, Policy.allowsForward_opposite, Policy.allowsReverse_opposite, Bool.or_comm]

/-- A loop leads back to its node when some direction is open, and once if both are. -/
theorem leads_self (e : Edge) (p : Policy) (u : String) :
    e.leads p u u = (e.source == u && e.target == u && p.accepts e.relation) := by
  rw [leads, Policy.accepts, Bool.and_or_distrib_left]

end Edge

namespace Graph

/-! ### The edges at a node -/

/-- The edges at a node are those that touch it, each once. -/
theorem incident_perm (g : Graph) (id : String) :
    (g.incident id).Perm (g.edges.filter (·.touches id)) := by
  have hleaving : g.outgoing id = (g.edges.filter (·.touches id)).filter (·.source == id) := by
    rw [outgoing_eq_filter, List.filter_filter]
    refine List.filter_congr fun e _ => Bool.eq_iff_iff.2 ?_
    simp only [beq_iff_eq, Bool.and_eq_true, Edge.touches_iff]
    exact ⟨fun hs => ⟨hs, .inl hs⟩, And.left⟩
  have harriving : (g.incoming id).filter (!·.isLoop) =
      (g.edges.filter (·.touches id)).filter (!·.source == id) := by
    rw [incoming_eq_filter, List.filter_filter, List.filter_filter]
    refine List.filter_congr fun e _ => Bool.eq_iff_iff.2 ?_
    simp only [Edge.isLoop, Bool.and_eq_true, Bool.not_eq_true', beq_eq_false_iff_ne, beq_iff_eq,
      Edge.touches_iff]
    constructor
    · rintro ⟨hloop, rfl⟩
      exact ⟨hloop, .inr rfl⟩
    · rintro ⟨hs, hs' | rfl⟩
      · exact absurd hs' hs
      · exact ⟨hs, rfl⟩
  rw [incident, hleaving, harriving]
  exact List.filter_append_perm _ _

theorem countP_incident (g : Graph) (id : String) (q : Edge → Bool) :
    (g.incident id).countP q = g.edges.countP fun e => q e && e.touches id := by
  rw [(g.incident_perm id).countP_eq, List.countP_filter]

/-! ### Multiplicities -/

theorem count_successors (g : Graph) (p : Policy) (u v : String) :
    (g.successors p u).count v = g.edges.countP (·.leads p u v) := by
  rw [successors, List.count_eq_countP, List.countP_map, List.countP_filter, countP_incident]
  refine List.countP_congr fun e _ => ?_
  simp only [Function.comp_apply, Bool.and_eq_true, beq_iff_eq, Edge.leads_iff]
  constructor
  · rintro ⟨⟨hv, hleaves⟩, -⟩
    exact ⟨hleaves, hv⟩
  · rintro ⟨hleaves, hv⟩
    exact ⟨⟨hv, hleaves⟩, Edge.touches_of_leaves hleaves⟩

theorem count_predecessors (g : Graph) (p : Policy) (u v : String) :
    (g.predecessors p v).count u = g.edges.countP (·.leads p u v) := by
  rw [predecessors_eq_successors_opposite, count_successors]
  simp only [Edge.leads_opposite]

/-! ### Order -/

/-- The targets of the open edges that leave the node, in the order of their insertion. A loop is
open when one of its directions is. -/
def outgoingNeighbours (g : Graph) (p : Policy) (u : String) : List String :=
  (g.edges.filter fun e => e.source == u &&
    (p.allowsForward e.relation || (e.target == u && p.allowsReverse e.relation))).map Edge.target

/-- The sources of the open edges that arrive at the node and do not leave it, in the order of their
insertion. -/
def incomingNeighbours (g : Graph) (p : Policy) (u : String) : List String :=
  (g.edges.filter fun e => e.target == u && e.source != u && p.allowsReverse e.relation).map
    Edge.source

theorem map_otherEnd_outgoing (g : Graph) (p : Policy) (u : String) :
    ((g.outgoing u).filter (·.leaves p u)).map (·.otherEnd u) = g.outgoingNeighbours p u := by
  rw [outgoingNeighbours, outgoing_eq_filter, List.filter_filter]
  have hopen : ∀ e ∈ g.edges, (e.leaves p u && e.source == u) = (e.source == u &&
      (p.allowsForward e.relation || (e.target == u && p.allowsReverse e.relation))) := by
    intro e _
    by_cases hs : (e.source == u) = true <;> simp [Edge.leaves, hs]
  rw [List.filter_congr hopen]
  refine List.map_congr_left fun e he => ?_
  have hs : (e.source == u) = true := (Bool.and_eq_true_iff.1 (List.mem_filter.1 he).2).1
  exact if_pos hs

theorem map_otherEnd_incoming (g : Graph) (p : Policy) (u : String) :
    (((g.incoming u).filter (!·.isLoop)).filter (·.leaves p u)).map (·.otherEnd u) =
      g.incomingNeighbours p u := by
  rw [incomingNeighbours, incoming_eq_filter, List.filter_filter, List.filter_filter]
  have hopen : ∀ e ∈ g.edges, (e.leaves p u && !e.isLoop && e.target == u) =
      (e.target == u && e.source != u && p.allowsReverse e.relation) := by
    intro e _
    by_cases ht : e.target = u
    · subst ht
      by_cases hs : (e.source == e.target) = true <;> simp [Edge.leaves, Edge.isLoop, hs, bne]
    · simp [beq_false_of_ne ht]
  rw [List.filter_congr hopen]
  refine List.map_congr_left fun e he => ?_
  have hs : (e.source != u) = true := by
    have h := (List.mem_filter.1 he).2
    simp only [Bool.and_eq_true] at h
    exact h.1.2
  exact if_neg (by simpa using hs)

theorem successors_eq_append (g : Graph) (p : Policy) (u : String) :
    g.successors p u = g.outgoingNeighbours p u ++ g.incomingNeighbours p u := by
  rw [successors, incident, List.filter_append, List.map_append, map_otherEnd_outgoing,
    map_otherEnd_incoming]

/-! ### The whole -/

/-- A node is among the successors of another one as often as that one is among its predecessors,
once for each stored edge along which a step leads from the one to the other. A loop counts once
when one of its directions is open. The successors along the edges that leave the node come first,
then those along the edges that only arrive at it, both in the order of insertion. -/
theorem count_successors_eq_count_predecessors (g : Graph) (p : Policy) :
    (∀ x y, (g.successors p x).count y = (g.predecessors p y).count x ∧
      (g.successors p x).count y = g.edges.countP (·.leads p x y)) ∧
    (∀ x, (g.successors p x).count x = g.edges.countP fun e =>
      e.source == x && e.target == x && p.accepts e.relation) ∧
    ∀ x, g.successors p x = g.outgoingNeighbours p x ++ g.incomingNeighbours p x := by
  refine ⟨fun x y => ⟨?_, g.count_successors p x y⟩, fun x => ?_, g.successors_eq_append p⟩
  · rw [count_successors, count_predecessors]
  · rw [count_successors]
    simp only [Edge.leads_self]

end Graph

end RelGraph
