import Mathlib.Logic.Relation
import RelGraph.Proofs.Graph.Views
import RelGraph.Walk

/-! Reachability as a closure. A step of a walk goes along an edge that is open forward, or back
along one that is open in reverse. The successors of a node are exactly the ends of its steps, and
the breadth-first search lists exactly the nodes at the end of a chain of steps from a root in the
graph, each once. The search keeps four facts about its seen and queued nodes; they are proved for
one step of it and carried over a whole run. -/

namespace RelGraph.Graph

/-- A walk may go from `u` to `v` along one edge. -/
def Step (g : Graph) (p : Policy) (u v : String) : Prop :=
  ∃ e ∈ g.edges, (e.source = u ∧ e.target = v ∧ p.allowsForward e.relation = true) ∨
    (e.target = u ∧ e.source = v ∧ p.allowsReverse e.relation = true)

/-! ### One step -/

theorem mem_incident {g : Graph} {u : String} {e : Edge} :
    e ∈ g.incident u ↔ e ∈ g.edges ∧ (e.source = u ∨ e.target = u) := by
  simp only [incident, outgoing_eq_filter, incoming_eq_filter, List.mem_append, List.mem_filter,
    beq_iff_eq, Edge.isLoop, Bool.not_eq_true', beq_eq_false_iff_ne]
  constructor
  · rintro (⟨he, hs⟩ | ⟨⟨he, ht⟩, -⟩)
    · exact ⟨he, .inl hs⟩
    · exact ⟨he, .inr ht⟩
  · rintro ⟨he, hs | ht⟩
    · exact .inl ⟨he, hs⟩
    · -- a loop stands among the outgoing edges
      by_cases hloop : e.source = e.target
      · exact .inl ⟨he, hloop.trans ht⟩
      · exact .inr ⟨⟨he, ht⟩, hloop⟩

theorem mem_successors {g : Graph} {p : Policy} {u v : String} :
    v ∈ g.successors p u ↔ g.Step p u v := by
  simp only [successors, List.mem_map, List.mem_filter, mem_incident, Edge.leaves, Edge.otherEnd,
    Bool.or_eq_true, Bool.and_eq_true, beq_iff_eq]
  constructor
  · rintro ⟨e, ⟨⟨he, -⟩, hopen⟩, hv⟩
    refine ⟨e, he, ?_⟩
    rcases hopen with ⟨hs, hf⟩ | ⟨ht, hr⟩
    · exact .inl ⟨hs, by rwa [if_pos hs] at hv, hf⟩
    · refine .inr ⟨ht, ?_, hr⟩
      split at hv
      · next hs => exact hs.trans (ht.symm.trans hv)
      · exact hv
  · rintro ⟨e, he, ⟨hs, ht, hf⟩ | ⟨ht, hs, hr⟩⟩
    · exact ⟨e, ⟨⟨he, .inl hs⟩, .inl ⟨hs, hf⟩⟩, by rw [if_pos hs, ht]⟩
    · refine ⟨e, ⟨⟨he, .inr ht⟩, .inr ⟨ht, hr⟩⟩, ?_⟩
      split
      · next hu => rw [ht, ← hu, hs]
      · exact hs

/-! ### The search -/

/-- What every step of a search keeps holds of its answer, where the queue is empty. -/
theorem explore_induction {g : Graph} {p : Policy} {I : List String → List String → Prop}
    (hstep : ∀ seen u queue, I seen (u :: queue) →
      I (seen ++ fresh seen (g.successors p u)) (queue ++ fresh seen (g.successors p u)))
    {seen queue : List String} (h : I seen queue) : I (g.explore p seen queue) [] := by
  induction seen, queue using explore.induct g p with
  | case1 seen => rwa [explore]
  | case2 seen u queue new ih =>
    rw [explore]
    exact ih (hstep seen u queue h)

/-- A search from `start` on its way. A node that has left the queue is done: its steps lead to
seen nodes. -/
structure Searching (g : Graph) (p : Policy) (start seen queue : List String) : Prop where
  nodup : seen.Nodup
  start_seen : ∀ r ∈ start, r ∈ seen
  reached : ∀ v ∈ seen, ∃ r ∈ start, Relation.ReflTransGen (g.Step p) r v
  queued_seen : ∀ u ∈ queue, u ∈ seen
  done : ∀ u ∈ seen, u ∉ queue → ∀ v, g.Step p u v → v ∈ seen

theorem Searching.begin {g : Graph} {p : Policy} {start : List String} (hnodup : start.Nodup) :
    Searching g p start start start where
  nodup := hnodup
  start_seen _ hr := hr
  reached v hv := ⟨v, hv, .refl⟩
  queued_seen _ hu := hu
  done _ hu hnot := absurd hu hnot

theorem Searching.step {g : Graph} {p : Policy} {start seen queue : List String} {u : String}
    (h : Searching g p start seen (u :: queue)) :
    Searching g p start (seen ++ fresh seen (g.successors p u))
      (queue ++ fresh seen (g.successors p u)) where
  nodup := by
    refine List.nodup_append.2 ⟨h.nodup, nodup_fresh _ _, ?_⟩
    rintro v hv w hw rfl
    exact (mem_fresh.1 hw).2 hv
  start_seen r hr := List.mem_append_left _ (h.start_seen r hr)
  reached v hv := by
    rcases List.mem_append.1 hv with hv | hv
    · exact h.reached v hv
    · obtain ⟨r, hr, hru⟩ := h.reached u (h.queued_seen u (by simp))
      exact ⟨r, hr, hru.tail (mem_successors.1 (mem_fresh.1 hv).1)⟩
  queued_seen v hv := by
    rcases List.mem_append.1 hv with hv | hv
    · exact List.mem_append_left _ (h.queued_seen v (by simp [hv]))
    · exact List.mem_append_right _ hv
  done w hw hnot v hv := by
    simp only [List.mem_append, not_or] at hw hnot ⊢
    have hw : w ∈ seen := hw.resolve_right hnot.2
    by_cases hwu : w = u
    · subst hwu
      by_cases hseen : v ∈ seen
      · exact .inl hseen
      · exact .inr (mem_fresh.2 ⟨mem_successors.2 hv, hseen⟩)
    · exact .inl (h.done w hw (by simp [hwu, hnot.1]) v hv)

theorem searching_reachable (g : Graph) (p : Policy) (roots : List String) :
    Searching g p (fresh [] (roots.filter g.contains)) (g.reachable p roots) [] :=
  explore_induction (I := Searching g p _) (fun _ _ _ h => h.step) (.begin (nodup_fresh _ _))

/-- A finished search has seen every end of a chain of steps. -/
theorem Searching.mem_of_chain {g : Graph} {p : Policy} {start seen : List String}
    (h : Searching g p start seen []) {r v : String} (hr : r ∈ start)
    (hrv : Relation.ReflTransGen (g.Step p) r v) : v ∈ seen := by
  induction hrv with
  | refl => exact h.start_seen r hr
  | tail _ huv ih => exact h.done _ ih (by simp) _ huv

/-! ### The answer -/

/-- The nodes from which a search starts are the roots in the graph. -/
theorem mem_start {g : Graph} {roots : List String} {r : String} :
    r ∈ fresh [] (roots.filter g.contains) ↔ r ∈ roots ∧ r ∈ g.ids := by
  simp [mem_fresh, contains_iff]

section Answer

variable {g : Graph} {p : Policy} {roots : List String} {u v : String}

/-- What a finished search has seen are the ends of chains of steps. -/
theorem Searching.mem_iff {start seen : List String} (h : Searching g p start seen []) :
    v ∈ seen ↔ ∃ r ∈ start, Relation.ReflTransGen (g.Step p) r v :=
  ⟨h.reached v, fun ⟨_, hr, hrv⟩ => h.mem_of_chain hr hrv⟩

theorem mem_reachable_iff : v ∈ g.reachable p roots ↔
    ∃ r, (r ∈ roots ∧ r ∈ g.ids) ∧ Relation.ReflTransGen (g.Step p) r v := by
  rw [(searching_reachable g p roots).mem_iff]
  simp only [mem_start]

theorem mem_reachable_singleton_iff : v ∈ g.reachable p [u] ↔
    u ∈ g.ids ∧ Relation.ReflTransGen (g.Step p) u v := by
  simp [mem_reachable_iff, and_assoc]

/-- A step from a reached node leads to a reached node. -/
theorem mem_reachable_of_step (hu : u ∈ g.reachable p roots) (hstep : g.Step p u v) :
    v ∈ g.reachable p roots := by
  obtain ⟨r, hr, hru⟩ := mem_reachable_iff.1 hu
  exact mem_reachable_iff.2 ⟨r, hr, hru.tail hstep⟩

end Answer

/-- Each reachable node is listed once, and a node is reachable exactly when a chain of steps leads
to it from a root in the graph. -/
theorem nodup_reachable_and_mem_iff (g : Graph) (p : Policy) (roots : List String) :
    (g.reachable p roots).Nodup ∧ ∀ v, v ∈ g.reachable p roots ↔
      ∃ r ∈ roots, r ∈ g.ids ∧ Relation.ReflTransGen (g.Step p) r v := by
  have hdone := searching_reachable g p roots
  refine ⟨hdone.nodup, fun v => ⟨fun hv => ?_, ?_⟩⟩
  · obtain ⟨r, hr, hrv⟩ := hdone.reached v hv
    obtain ⟨hroot, hid⟩ := mem_start.1 hr
    exact ⟨r, hroot, hid, hrv⟩
  · rintro ⟨r, hroot, hid, hrv⟩
    exact hdone.mem_of_chain (mem_start.2 ⟨hroot, hid⟩) hrv

end RelGraph.Graph
