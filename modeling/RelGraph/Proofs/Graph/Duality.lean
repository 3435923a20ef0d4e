import RelGraph.Matcher
import RelGraph.Proofs.Graph.Reachability
import RelGraph.Proofs.Graph.Snapshots

/-! Walks in the opposite direction. Exchanging the two directions of a policy turns every step
around: a walk arrives along an edge under the one policy where it leaves along it under the other.
So the nodes before a node become the nodes after it, in the same order, and a chain of steps becomes
a chain the other way round. One node is then reachable from another exactly when the other is
reachable from it under the opposite policy. -/

namespace RelGraph

/-! ### Opposite policies -/

namespace Policy

variable {p q : Policy} {r : Relation}

@[simp] theorem allowsForward_opposite : p.opposite.allowsForward r = p.allowsReverse r := rfl

@[simp] theorem allowsReverse_opposite : p.opposite.allowsReverse r = p.allowsForward r := rfl

/-- A policy that opens forward what another one opens in reverse, and in reverse what that one
opens forward, is its opposite. -/
theorem eq_opposite (hforward : ∀ r, q.allowsForward r = p.allowsReverse r)
    (hreverse : ∀ r, q.allowsReverse r = p.allowsForward r) : q = p.opposite := by
  cases q with
  | mk opens =>
    rw [opposite, mk.injEq]
    funext d r
    cases d with
    | forward => exact hforward r
    | reverse => exact hreverse r

end Policy

/-- The opposite of a set with one direction open is the set with the other one open. -/
theorem Matcher.opposite_within (set : RelationSet) (forward reverse : Bool) :
    (within set forward reverse).policy.opposite = (within set reverse forward).policy :=
  (Policy.eq_opposite (fun _ => rfl) (fun _ => rfl)).symm

theorem Edge.arrives_eq_leaves_opposite (e : Edge) (p : Policy) (id : String) :
    e.arrives p id = e.leaves p.opposite id := by
  rw [arrives, leaves, Bool.or_comm, Policy.allowsForward_opposite, Policy.allowsReverse_opposite]

namespace Graph

variable {g : Graph} {p q : Policy} {u v : String}

/-! ### One step -/

theorem predecessors_eq_successors_opposite (g : Graph) (p : Policy) (id : String) :
    g.predecessors p id = g.successors p.opposite id := by
  simp only [predecessors, successors, Edge.arrives_eq_leaves_opposite]

theorem step_opposite_iff : g.Step p.opposite u v ↔ g.Step p v u := by
  constructor
  · rintro ⟨e, he, ⟨hs, ht, hopen⟩ | ⟨ht, hs, hopen⟩⟩
    · exact ⟨e, he, .inr ⟨ht, hs, hopen⟩⟩
    · exact ⟨e, he, .inl ⟨hs, ht, hopen⟩⟩
  · rintro ⟨e, he, ⟨hs, ht, hopen⟩ | ⟨ht, hs, hopen⟩⟩
    · exact ⟨e, he, .inr ⟨ht, hs, hopen⟩⟩
    · exact ⟨e, he, .inl ⟨hs, ht, hopen⟩⟩

/-- A step joins two nodes of the graph. -/
theorem Step.mem_ids (h : g.Step p u v) : u ∈ g.ids ∧ v ∈ g.ids := by
  obtain ⟨e, he, ⟨rfl, rfl, -⟩ | ⟨rfl, rfl, -⟩⟩ := h
  · exact g.ends_mem_ids he
  · exact (g.ends_mem_ids he).symm

/-! ### Chains of steps -/

theorem chain_opposite_iff :
    Relation.ReflTransGen (g.Step p.opposite) u v ↔ Relation.ReflTransGen (g.Step p) v u := by
  have hswap : g.Step p.opposite = Function.swap (g.Step p) := by
    funext a b
    exact propext step_opposite_iff
  rw [hswap, Relation.reflTransGen_swap]

theorem mem_ids_of_chain (hu : u ∈ g.ids) (h : Relation.ReflTransGen (g.Step p) u v) :
    v ∈ g.ids := by
  cases h with
  | refl => exact hu
  | tail _ hstep => exact hstep.mem_ids.2

/-- Under the opposite policy the answer to one root says from where the root is reachable. -/
theorem mem_reachable_opposite_iff :
    v ∈ g.reachable p [u] ↔ u ∈ g.reachable p.opposite [v] := by
  rw [mem_reachable_singleton_iff, mem_reachable_singleton_iff, chain_opposite_iff]
  constructor
  · rintro ⟨hu, huv⟩
    exact ⟨mem_ids_of_chain hu huv, huv⟩
  · rintro ⟨hv, huv⟩
    refine ⟨?_, huv⟩
    exact mem_ids_of_chain hv (chain_opposite_iff.2 huv)

/-! ### The whole -/

/-- Two policies that open the directions the other way round walk the same steps backwards. The
predecessors of a node under the one are its successors under the other, in the same order, and a
node is reachable from another one under the one exactly when that one is reachable from it under
the other. -/
theorem predecessors_eq_successors_and_mem_reachable_iff (g : Graph) {p q : Policy}
    (hforward : ∀ r, q.allowsForward r = p.allowsReverse r)
    (hreverse : ∀ r, q.allowsReverse r = p.allowsForward r) :
    (∀ id, g.predecessors p id = g.successors q id) ∧
      ∀ x y, y ∈ g.reachable p [x] ↔ x ∈ g.reachable q [y] := by
  obtain rfl : q = p.opposite := Policy.eq_opposite hforward hreverse
  exact ⟨g.predecessors_eq_successors_opposite p, fun _ _ => mem_reachable_opposite_iff⟩

/-- The relation of the sample calls, open in the directions that are set. -/
def samplePolicy (forward reverse : Bool) : Policy :=
  (Matcher.within (.ofList "calls" [Snapshot.sampleRelation]) forward reverse).policy

theorem predecessors_eq_successors_and_mem_reachable_iff_sample :
    (∀ r, (samplePolicy false true).allowsForward r = (samplePolicy true false).allowsReverse r) ∧
    (∀ r, (samplePolicy false true).allowsReverse r = (samplePolicy true false).allowsForward r) ∧
    (∀ id, (ofCalls Snapshot.sampleCalls).predecessors (samplePolicy true false) id =
      (ofCalls Snapshot.sampleCalls).successors (samplePolicy false true) id) ∧
    ∀ x y, y ∈ (ofCalls Snapshot.sampleCalls).reachable (samplePolicy true false) [x] ↔
      x ∈ (ofCalls Snapshot.sampleCalls).reachable (samplePolicy false true) [y] := by
  have hopposite : samplePolicy false true = (samplePolicy true false).opposite :=
    (Matcher.opposite_within _ true false).symm
  have hforward : ∀ r, (samplePolicy false true).allowsForward r =
      (samplePolicy true false).allowsReverse r := by
    rw [hopposite]
    exact fun _ => Policy.allowsForward_opposite
  have hreverse : ∀ r, (samplePolicy false true).allowsReverse r =
      (samplePolicy true false).allowsForward r := by
    rw [hopposite]
    exact fun _ => Policy.allowsReverse_opposite
  exact ⟨hforward, hreverse,
    predecessors_eq_successors_and_mem_reachable_iff (ofCalls Snapshot.sampleCalls)
      hforward hreverse⟩

end Graph

end RelGraph
