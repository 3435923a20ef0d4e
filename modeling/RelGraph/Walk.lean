import RelGraph.Graph
import RelGraph.Policy

/-! Walks over a dependency graph under a traversal policy. An edge is followed from its source to
its target when the policy opens its relation forward, and from its target to its source when the
policy opens it in reverse. Reachability is a breadth-first search whose list of seen nodes is also
its answer, so a node is listed when it is first discovered. -/

namespace RelGraph

namespace Edge

/-- A walk may leave the node along the edge. -/
def leaves (e : Edge) (p : Policy) (id : String) : Bool :=
  (e.source == id && p.allowsForward e.relation) || (e.target == id && p.allowsReverse e.relation)

/-- A walk may arrive at the node along the edge. -/
def arrives (e : Edge) (p : Policy) (id : String) : Bool :=
  (e.target == id && p.allowsForward e.relation) || (e.source == id && p.allowsReverse e.relation)

def otherEnd (e : Edge) (id : String) : String := if e.source == id then e.target else e.source

end Edge

/-- Which of the edges at a node a degree counts. -/
inductive DegreeMode
  /-- Those along which a walk leaves the node. -/
  | successors
  /-- Those along which a walk arrives at the node. -/
  | predecessors
  /-- Those that are open in some direction, each once. -/
  | incident
  deriving DecidableEq, Repr

namespace Graph

/-! ### One step -/

/-- The edges at a node, each once: those that leave it, then those that only arrive at it. -/
def incident (g : Graph) (id : String) : List Edge :=
  g.outgoing id ++ (g.incoming id).filter (!·.isLoop)

/-- The nodes one step away, in the order of the edges. -/
def successors (g : Graph) (p : Policy) (id : String) : List String :=
  ((g.incident id).filter (·.leaves p id)).map (·.otherEnd id)

/-- The nodes from which one step leads here, in the order of the edges. -/
def predecessors (g : Graph) (p : Policy) (id : String) : List String :=
  ((g.incident id).filter (·.arrives p id)).map (·.otherEnd id)

/-- Counts the edges at a node that the mode selects. -/
def degree (g : Graph) (p : Policy) (mode : DegreeMode) (id : String) : Nat :=
  (g.incident id).countP fun e =>
    match mode with
    | .successors => e.leaves p id
    | .predecessors => e.arrives p id
    | .incident => p.accepts e.relation

theorem mem_edges_of_mem_incident {g : Graph} {id : String} {e : Edge} (h : e ∈ g.incident id) :
    e ∈ g.edges := by
  rw [incident, outgoing_eq_filter, incoming_eq_filter] at h
  simp only [List.mem_append, List.mem_filter] at h
  rcases h with h | h
  · exact h.1
  · exact h.1.1

theorem mem_ids_of_mem_successors {g : Graph} {p : Policy} {u v : String}
    (h : v ∈ g.successors p u) : v ∈ g.ids := by
  obtain ⟨e, he, rfl⟩ := List.mem_map.1 h
  obtain ⟨hs, ht⟩ := g.ends_mem_ids (mem_edges_of_mem_incident (List.mem_filter.1 he).1)
  rw [Edge.otherEnd]
  split
  · exact ht
  · exact hs

/-! ### Reachability -/

/-- The listed nodes that are not seen yet, each at its first place. -/
def fresh (seen : List String) : List String → List String
  | [] => []
  | v :: rest => if v ∈ seen then fresh seen rest else v :: fresh (v :: seen) rest

theorem mem_fresh {seen l : List String} {v : String} :
    v ∈ fresh seen l ↔ v ∈ l ∧ v ∉ seen := by
  induction l generalizing seen with
  | nil => simp [fresh]
  | cons w rest ih =>
    rw [fresh]
    split
    · rw [ih]; grind
    · rw [List.mem_cons, ih]; grind

theorem nodup_fresh (seen l : List String) : (fresh seen l).Nodup := by
  induction l generalizing seen with
  | nil => simp [fresh]
  | cons w rest ih =>
    rw [fresh]
    split
    · exact ih seen
    · exact List.nodup_cons.2 ⟨fun h => (mem_fresh.1 h).2 (by simp), ih _⟩

/-- How many nodes are not seen yet. -/
def unseen (g : Graph) (seen : List String) : Nat := (g.ids.filter (· ∉ seen)).length

theorem unseen_append (g : Graph) {seen new : List String} (hnew : new.Nodup)
    (hids : ∀ v ∈ new, v ∈ g.ids) (hseen : ∀ v ∈ new, v ∉ seen) :
    g.unseen (seen ++ new) + new.length ≤ g.unseen seen := by
  induction new generalizing seen with
  | nil => simp
  | cons v rest ih =>
    obtain ⟨hv, hrest⟩ := List.nodup_cons.1 hnew
    have hstep : g.unseen (seen ++ [v]) + 1 ≤ g.unseen seen := by
      have : g.ids.filter (· ∉ seen ++ [v]) = (g.ids.filter (· ∉ seen)).filter (· ≠ v) := by
        rw [List.filter_filter]
        refine List.filter_congr fun w _ => ?_
        by_cases hw : w = v <;> simp [hw]
      rw [unseen, unseen, this]
      refine List.length_filter_lt_length_iff_exists.2 ⟨v, ?_, by simp⟩
      simp [hids v (by simp), hseen v (by simp)]
    have := @ih (seen ++ [v]) hrest (fun w hw => hids w (by simp [hw])) (fun w hw => by
      have := hseen w (by simp [hw])
      have : w ≠ v := fun e => hv (e ▸ hw)
      simp_all)
    rw [List.append_assoc] at this
    simp only [List.singleton_append] at this
    rw [List.length_cons]
    omega

/-- Goes on from the queued nodes. Every queued node is seen, and the seen nodes are listed in the
order of their discovery. -/
def explore (g : Graph) (p : Policy) (seen : List String) : List String → List String
  | [] => seen
  | u :: queue =>
    let new := fresh seen (g.successors p u)
    explore g p (seen ++ new) (queue ++ new)
termination_by queue => 2 * g.unseen seen + queue.length
decreasing_by
  have := g.unseen_append (nodup_fresh seen (g.successors p u))
    (fun v hv => mem_ids_of_mem_successors (mem_fresh.1 hv).1) (fun v hv => (mem_fresh.1 hv).2)
  simp only [List.length_append, List.length_cons]
  omega

/-- The nodes that can be reached from the roots, roots included, in the order of their discovery.
Roots that are not in the graph contribute nothing. -/
def reachable (g : Graph) (p : Policy) (roots : List String) : List String :=
  let start := fresh [] (roots.filter g.contains)
  g.explore p start start

/-! ### Edges -/

/-- The edges that are open in some direction, by source in the order of the nodes. -/
def acceptedEdges (g : Graph) (p : Policy) : List Edge :=
  (g.ids.flatMap g.outgoing).filter (p.accepts ·.relation)

/-- The edges among the listed nodes that are open in some direction, by source in the order of
the list. -/
def subgraphEdges (g : Graph) (p : Policy) (among : List String) : List Edge :=
  ((fresh [] among).flatMap g.outgoing).filter fun e =>
    among.contains e.target && p.accepts e.relation

end Graph

end RelGraph
