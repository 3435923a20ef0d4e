import Mathlib.Order.Lattice.Nat
import RelGraph.Proofs.Graph.Reachability

/-! The order in which a search discovers nodes. The queue of a search is the part of its answer
that is not processed yet, so the answer is sorted by the node from which each of its members was
discovered, and this node is the first in the list with a step to it. From that alone it follows
that no node is listed before one that is nearer to the roots. -/

namespace RelGraph.Graph

variable {g : Graph} {p : Policy} {roots seen queue done later : List String} {u v w : String}

/-! ### Distances -/

/-- A walk of so many steps leads to the node from a root in the graph. -/
inductive ReachedIn (g : Graph) (p : Policy) (roots : List String) : ℕ → String → Prop
  | root {r : String} : r ∈ roots → r ∈ g.ids → ReachedIn g p roots 0 r
  | step {n : ℕ} {u v : String} :
    ReachedIn g p roots n u → g.Step p u v → ReachedIn g p roots (n + 1) v

/-- The number of steps of a shortest walk to the node from a root in the graph. -/
noncomputable def distance (g : Graph) (p : Policy) (roots : List String) (v : String) : ℕ :=
  sInf {n | g.ReachedIn p roots n v}

theorem exists_reachedIn_of_mem (h : v ∈ g.reachable p roots) : ∃ n, g.ReachedIn p roots n v := by
  obtain ⟨r, ⟨hroot, hid⟩, hwalk⟩ := mem_reachable_iff.1 h
  induction hwalk with
  | refl => exact ⟨0, .root hroot hid⟩
  | tail hwalk hstep ih =>
    obtain ⟨n, hn⟩ := ih (mem_reachable_iff.2 ⟨r, ⟨hroot, hid⟩, hwalk⟩)
    exact ⟨n + 1, .step hn hstep⟩

theorem mem_reachable_of_reachedIn {n : ℕ} (h : g.ReachedIn p roots n v) :
    v ∈ g.reachable p roots := by
  induction h with
  | root hroot hid => exact mem_reachable_iff.2 ⟨_, ⟨hroot, hid⟩, .refl⟩
  | step _ hstep ih => exact mem_reachable_of_step ih hstep

theorem reachedIn_distance (h : v ∈ g.reachable p roots) :
    g.ReachedIn p roots (g.distance p roots v) v :=
  Nat.sInf_mem (exists_reachedIn_of_mem h)

theorem distance_le {n : ℕ} (h : g.ReachedIn p roots n v) : g.distance p roots v ≤ n :=
  Nat.sInf_le h

/-! ### New nodes in their order -/

theorem fresh_eq_eraseDups (seen l : List String) :
    fresh seen l = (l.filter (· ∉ seen)).eraseDups := by
  induction l generalizing seen with
  | nil => rfl
  | cons w rest ih =>
    rw [fresh]
    by_cases hw : w ∈ seen
    · rw [if_pos hw, ih, List.filter_cons_of_neg (by simpa using hw)]
    · rw [if_neg hw, ih, List.filter_cons_of_pos (by simpa using hw), List.eraseDups_cons,
        List.filter_filter]
      congr 2
      refine List.filter_congr fun v _ => ?_
      by_cases hv : v = w <;> simp [hv]

/-- New nodes are listed in the order of their first places. -/
theorem pairwise_idxOf_fresh (seen l : List String) :
    (fresh seen l).Pairwise fun v w => l.idxOf v < l.idxOf w := by
  induction l generalizing seen with
  | nil => exact List.Pairwise.nil
  | cons x rest ih =>
    have hshift {known : List String} (hx : x ∈ known) :
        (fresh known rest).Pairwise fun v w => (x :: rest).idxOf v < (x :: rest).idxOf w := by
      have hne : ∀ v ∈ fresh known rest, x ≠ v := by
        rintro v hv rfl
        exact (mem_fresh.1 hv).2 hx
      refine (ih known).imp_of_mem fun {v w} hv hw hlt => ?_
      rw [List.idxOf_cons_ne _ (hne v hv), List.idxOf_cons_ne _ (hne w hw)]
      omega
    rw [fresh]
    split
    · next hx => exact hshift hx
    · next hx =>
      refine List.pairwise_cons.2 ⟨fun v hv => ?_, hshift List.mem_cons_self⟩
      have hne : x ≠ v := by
        rintro rfl
        exact (mem_fresh.1 hv).2 List.mem_cons_self
      rw [List.idxOf_cons_self, List.idxOf_cons_ne _ hne]
      omega

/-! ### Discoverers -/

/-- The place of the first listed node that has `v` among its successors, or the length of the list
if there is none. -/
def discoverer (g : Graph) (p : Policy) (l : List String) (v : String) : ℕ :=
  l.findIdx fun u => (g.successors p u).contains v

/-- `v` is discovered before `w`: from an earlier node of the list or, where both are discovered
from one node, at an earlier place among its successors. -/
def DiscoveredBefore (g : Graph) (p : Policy) (l : List String) (v w : String) : Prop :=
  g.discoverer p l v ≤ g.discoverer p l w ∧
    (g.discoverer p l v = g.discoverer p l w → ∀ u, l[g.discoverer p l v]? = some u →
      (g.successors p u).idxOf v < (g.successors p u).idxOf w)

theorem discoverer_append_of_lt (more : List String) (h : g.discoverer p done v < done.length) :
    g.discoverer p (done ++ more) v = g.discoverer p done v := by
  rw [discoverer, List.findIdx_append]
  exact if_pos h

/-- A node that is new among the successors of the next node is discovered from it. -/
theorem discoverer_concat_of_new (hnew : ∀ x ∈ done, v ∉ g.successors p x)
    (hv : v ∈ g.successors p u) : g.discoverer p (done ++ [u]) v = done.length := by
  have hnone : g.discoverer p done v = done.length :=
    List.findIdx_eq_length_of_false fun x hx => by simpa using hnew x hx
  rw [discoverer, List.findIdx_append]
  have hlast : List.findIdx (fun x => (g.successors p x).contains v) [u] = 0 := by
    simp [List.findIdx_cons, hv]
  rw [if_neg (by rw [← discoverer, hnone]; omega), hlast, Nat.zero_add]

theorem discoverer_le_of_mem_successors {l : List String} {k : ℕ} (hk : l[k]? = some u)
    (hv : v ∈ g.successors p u) : g.discoverer p l v ≤ k := by
  obtain ⟨hlt, rfl⟩ := List.getElem?_eq_some_iff.1 hk
  by_contra hgt
  have hnot := List.not_of_lt_findIdx (Nat.lt_of_not_le hgt)
  simp [hv] at hnot

theorem mem_successors_discoverer {l : List String} (h : g.discoverer p l v < l.length) :
    v ∈ g.successors p l[g.discoverer p l v] := by
  have hfound : (g.successors p l[g.discoverer p l v]).contains v = true :=
    List.findIdx_getElem (w := h)
  simpa using hfound

/-! ### The search -/

/-- A search from `start` on its way: which nodes it has processed, and which it has discovered
since. Each of these was discovered from a processed node that comes before it, and they stand in
the order of their discovery. -/
structure Discovering (g : Graph) (p : Policy) (start done later queue : List String) : Prop where
  seen_eq : start ++ later = done ++ queue
  closed : ∀ x ∈ done, ∀ v ∈ g.successors p x, v ∈ start ++ later
  found : ∀ i v, later[i]? = some v →
    g.discoverer p done v < done.length ∧ g.discoverer p done v < start.length + i
  ordered : later.Pairwise (g.DiscoveredBefore p done)

theorem Discovering.begin (start : List String) : Discovering g p start [] [] start where
  seen_eq := List.append_nil start
  closed x hx := absurd hx List.not_mem_nil
  found i v hv := by simp at hv
  ordered := List.Pairwise.nil

section Step

variable {start : List String}

theorem Discovering.not_mem_successors (h : Discovering g p start done later (u :: queue))
    (hv : v ∉ start ++ later) : ∀ x ∈ done, v ∉ g.successors p x :=
  fun x hx hmem => hv (h.closed x hx v hmem)

theorem Discovering.discoverer_lt (h : Discovering g p start done later queue) (hv : v ∈ later) :
    g.discoverer p done v < done.length := by
  obtain ⟨i, hi⟩ := List.mem_iff_getElem?.1 hv
  exact (h.found i v hi).1

/-- What was discovered already keeps its discoverer. -/
theorem Discovering.discoverer_concat (h : Discovering g p start done later queue)
    (hv : v ∈ later) : g.discoverer p (done ++ [u]) v = g.discoverer p done v :=
  discoverer_append_of_lt [u] (h.discoverer_lt hv)

theorem Discovering.discoverer_new (h : Discovering g p start done later (u :: queue))
    (hv : v ∈ fresh (start ++ later) (g.successors p u)) :
    g.discoverer p (done ++ [u]) v = done.length := by
  obtain ⟨hsucc, hnew⟩ := mem_fresh.1 hv
  exact discoverer_concat_of_new (h.not_mem_successors hnew) hsucc

theorem Discovering.step (h : Discovering g p start done later (u :: queue)) :
    Discovering g p start (done ++ [u]) (later ++ fresh (start ++ later) (g.successors p u))
      (queue ++ fresh (start ++ later) (g.successors p u)) where
  seen_eq := by
    rw [← List.append_assoc, h.seen_eq]
    simp
  closed x hx v hv := by
    rw [← List.append_assoc, List.mem_append]
    rcases List.mem_append.1 hx with hx | hx
    · exact .inl (h.closed x hx v hv)
    · rw [List.mem_singleton] at hx
      subst hx
      by_cases hseen : v ∈ start ++ later
      · exact .inl hseen
      · exact .inr (mem_fresh.2 ⟨hv, hseen⟩)
  found i v hv := by
    have hlength : start.length + later.length = done.length + (queue.length + 1) := by
      simpa using congrArg List.length h.seen_eq
    rw [List.length_append, List.length_singleton]
    by_cases hi : i < later.length
    · rw [List.getElem?_append_left hi] at hv
      have hold := h.found i v hv
      rw [h.discoverer_concat (List.mem_of_getElem? hv)]
      omega
    · rw [List.getElem?_append_right (by omega)] at hv
      rw [h.discoverer_new (List.mem_of_getElem? hv)]
      omega
  ordered := by
    refine List.pairwise_append.2 ⟨?_, ?_, ?_⟩
    · refine h.ordered.imp_of_mem fun {v w} hv hw hvw => ?_
      rw [DiscoveredBefore, h.discoverer_concat hv, h.discoverer_concat hw,
        List.getElem?_append_left (h.discoverer_lt hv)]
      exact hvw
    · -- new nodes share their discoverer, so they stand as its successors do
      refine (pairwise_idxOf_fresh _ _).imp_of_mem fun {v w} hv hw hlt => ?_
      rw [DiscoveredBefore, h.discoverer_new hv, h.discoverer_new hw]
      refine ⟨le_rfl, fun _ x hx => ?_⟩
      obtain rfl : u = x := by simpa using hx
      exact hlt
    · intro v hv w hw
      have hlt := h.discoverer_lt hv
      rw [DiscoveredBefore, h.discoverer_concat hv, h.discoverer_new hw]
      exact ⟨hlt.le, fun heq => absurd heq hlt.ne⟩

end Step

/-- At its end a search has processed all that it discovered. -/
theorem discovering_reachable (g : Graph) (p : Policy) (roots : List String) :
    ∃ later,
      Discovering g p (fresh [] (roots.filter g.contains)) (g.reachable p roots) later [] := by
  have hrun := explore_induction (g := g) (p := p)
    (I := fun seen queue => ∃ done later, seen = fresh [] (roots.filter g.contains) ++ later ∧
      Discovering g p (fresh [] (roots.filter g.contains)) done later queue)
    (fun seen u queue ⟨done, later, hseen, h⟩ =>
      ⟨done ++ [u], later ++ fresh seen (g.successors p u), by rw [hseen, List.append_assoc],
        hseen ▸ h.step⟩)
    ⟨[], [], (List.append_nil _).symm, .begin _⟩
  obtain ⟨done, later, hseen, h⟩ := hrun
  have hdone : g.reachable p roots = done := by
    rw [← List.append_nil done, ← h.seen_eq]
    exact hseen
  exact ⟨later, hdone ▸ h⟩

/-! ### The answer -/

section Answer

variable {start l : List String}

theorem Discovering.eq_append (h : Discovering g p start l later []) : l = start ++ later := by
  rw [h.seen_eq, List.append_nil]

/-- A discovered node comes after a node that has it among its successors. -/
theorem Discovering.exists_earlier (h : Discovering g p start l later []) {front back : List String}
    (hlater : later = front ++ v :: back) : ∃ u ∈ start ++ front, v ∈ g.successors p u := by
  have hplace : later[front.length]? = some v := by simp [hlater]
  obtain ⟨hlt, hbefore⟩ := h.found _ v hplace
  rw [← List.length_append] at hbefore
  have hl : l = (start ++ front) ++ v :: back := by
    rw [h.eq_append, hlater, List.append_assoc]
  have hfront : ∀ k < (start ++ front).length, l[k]? = (start ++ front)[k]? := by
    intro k hk
    rw [hl, List.getElem?_append_left hk]
  refine ⟨l[g.discoverer p l v], ?_, mem_successors_discoverer hlt⟩
  apply List.mem_of_getElem? (i := g.discoverer p l v)
  rw [← hfront _ hbefore, List.getElem?_eq_getElem hlt]

theorem Discovering.getElem?_later (h : Discovering g p start l later []) {i : ℕ}
    (hi : start.length ≤ i) : later[i - start.length]? = l[i]? := by
  rw [h.eq_append, List.getElem?_append_right hi]

/-- Of two discovered nodes the one that is listed first has the earlier discoverer. -/
theorem Discovering.discoverer_le (h : Discovering g p start l later []) {i j : ℕ}
    (hi : start.length ≤ i) (hij : i ≤ j) (hv : l[i]? = some v) (hw : l[j]? = some w) :
    g.discoverer p l v ≤ g.discoverer p l w := by
  rw [← h.getElem?_later hi] at hv
  rw [← h.getElem?_later (hi.trans hij)] at hw
  obtain ⟨hi', rfl⟩ := List.getElem?_eq_some_iff.1 hv
  obtain ⟨hj', rfl⟩ := List.getElem?_eq_some_iff.1 hw
  by_cases heq : i = j
  · subst heq
    exact le_rfl
  · exact (List.pairwise_iff_getElem.1 h.ordered _ _ hi' hj' (by omega)).1

/-- A root stands at the beginning and nowhere else. -/
theorem Discovering.lt_length_of_mem_start (h : Discovering g p start l later [])
    (hnodup : l.Nodup) {j : ℕ} (hw : l[j]? = some w) (hstart : w ∈ start) : j < start.length := by
  by_contra hge
  rw [← h.getElem?_later (Nat.le_of_not_lt hge)] at hw
  have hdisjoint := (List.nodup_append.1 (h.eq_append ▸ hnodup)).2.2
  exact hdisjoint w hstart w (List.mem_of_getElem? hw) rfl

end Answer

/-- A node that is listed before another is reached in no more steps. -/
theorem exists_reachedIn_le
    (h : Discovering g p (fresh [] (roots.filter g.contains)) (g.reachable p roots) later [])
    {n : ℕ} (hn : g.ReachedIn p roots n w) {i j : ℕ} (hij : i ≤ j)
    (hv : (g.reachable p roots)[i]? = some v) (hw : (g.reachable p roots)[j]? = some w) :
    ∃ m ≤ n, g.ReachedIn p roots m v := by
  have hroot {k : ℕ} {x : String} (hx : (g.reachable p roots)[k]? = some x)
      (hk : k < (fresh [] (roots.filter g.contains)).length) : g.ReachedIn p roots 0 x := by
    rw [h.eq_append, List.getElem?_append_left hk] at hx
    obtain ⟨hmem, hid⟩ := mem_start.1 (List.mem_of_getElem? hx)
    exact .root hmem hid
  -- the discoverer of `v` is not after the node before `w` on its walk, which is one step shorter
  induction hn generalizing i j v with
  | root hmem hid =>
    have hnodup : (g.reachable p roots).Nodup := (searching_reachable g p roots).nodup
    have hj := h.lt_length_of_mem_start hnodup hw (mem_start.2 ⟨hmem, hid⟩)
    exact ⟨0, le_rfl, hroot hv (by omega)⟩
  | @step n u w hu hstep ih =>
    by_cases hi : i < (fresh [] (roots.filter g.contains)).length
    · exact ⟨0, Nat.zero_le _, hroot hv hi⟩
    · have hge := Nat.le_of_not_lt hi
      obtain ⟨k, hk⟩ := List.mem_iff_getElem?.1 (mem_reachable_of_reachedIn hu)
      have hfound : g.discoverer p (g.reachable p roots) v < (g.reachable p roots).length :=
        (h.found _ v (by rw [h.getElem?_later hge, hv])).1
      have hle : g.discoverer p (g.reachable p roots) v ≤ k :=
        (h.discoverer_le hge hij hv hw).trans
          (discoverer_le_of_mem_successors hk (mem_successors.2 hstep))
      obtain ⟨m, hm, hreached⟩ := ih hle (List.getElem?_eq_getElem hfound) hk
      have hlast : g.Step p (g.reachable p roots)[g.discoverer p (g.reachable p roots) v] v :=
        mem_successors.1 (mem_successors_discoverer hfound)
      exact ⟨m + 1, Nat.succ_le_succ hm, .step hreached hlast⟩

theorem pairwise_distance_le
    (h : Discovering g p (fresh [] (roots.filter g.contains)) (g.reachable p roots) later []) :
    (g.reachable p roots).Pairwise fun v w => g.distance p roots v ≤ g.distance p roots w := by
  refine List.pairwise_iff_getElem.2 fun i j hi hj hij => ?_
  have hreached := reachedIn_distance (List.getElem_mem hj)
  obtain ⟨m, hm, hv⟩ := exists_reachedIn_le h hreached hij.le (List.getElem?_eq_getElem hi)
    (List.getElem?_eq_getElem hj)
  exact (distance_le hv).trans hm

/-- The nodes that a search lists after its roots stand in breadth-first order. -/
structure BreadthFirst (g : Graph) (p : Policy) (roots start later : List String) : Prop where
  /-- Every listed node is reached from the roots, and its distance is that of a shortest walk. -/
  reached : ∀ v ∈ start ++ later, g.ReachedIn p roots (g.distance p roots v) v
  nearest_first :
    (start ++ later).Pairwise fun v w => g.distance p roots v ≤ g.distance p roots w
  preceded : ∀ front v back, later = front ++ v :: back →
    ∃ u ∈ start ++ front, v ∈ g.successors p u
  ordered : later.Pairwise (g.DiscoveredBefore p (start ++ later))

/-- A search lists the distinct roots in the graph in their order, and then the other nodes that it
reaches in breadth-first order. -/
theorem reachable_breadthFirst (g : Graph) (p : Policy) (roots : List String) :
    ∃ later, g.reachable p roots = (roots.filter g.contains).eraseDups ++ later ∧
      BreadthFirst g p roots (roots.filter g.contains).eraseDups later := by
  have hstart : fresh [] (roots.filter g.contains) = (roots.filter g.contains).eraseDups := by
    simp [fresh_eq_eraseDups]
  obtain ⟨later, h⟩ := discovering_reachable g p roots
  rw [← hstart]
  refine ⟨later, h.eq_append, ?_, ?_, fun front v back => h.exists_earlier, ?_⟩
  · rw [← h.eq_append]
    exact fun v => reachedIn_distance
  · rw [← h.eq_append]
    exact pairwise_distance_le h
  · rw [← h.eq_append]
    exact h.ordered

/-- The roots and the nodes that are listed after them are all nodes to which a walk leads from the
roots, however many steps it takes. -/
theorem mem_append_iff_reachedIn {start : List String} (h : g.reachable p roots = start ++ later) :
    v ∈ start ++ later ↔ ∃ n, g.ReachedIn p roots n v := by
  rw [← h]
  exact ⟨exists_reachedIn_of_mem, fun ⟨_, hn⟩ => mem_reachable_of_reachedIn hn⟩

end RelGraph.Graph
