import Mathlib.Data.List.Nodup
import RelGraph.Graph

/-! Looking nodes up. Every identifier belongs to one node, so looking a node up by its identifier
gives the same as looking for it in the list of nodes. -/

namespace RelGraph.Graph

theorem getElem?_nodes (g : Graph) (i : Nat) : g.nodes[i]? = g.nodeArray[i]? := by
  simp [nodes]

theorem nodup_ids (g : Graph) : g.ids.Nodup := Located.nodup g.indexed.position_eq

theorem node?_eq_some_iff {g : Graph} {id : String} {n : Node} :
    g.node? id = some n ↔ n ∈ g.nodes ∧ n.id = id :=
  Located.bind_eq_some_iff g.indexed.position_eq

theorem node?_eq_find? (g : Graph) (id : String) : g.node? id = g.nodes.find? (·.id == id) := by
  cases h : g.nodes.find? (·.id == id) with
  | none =>
    refine Option.eq_none_iff_forall_ne_some.2 fun n hn => ?_
    obtain ⟨hmem, hid⟩ := node?_eq_some_iff.1 hn
    exact List.find?_eq_none.1 h n hmem (by simp [hid])
  | some n =>
    refine node?_eq_some_iff.2 ⟨List.mem_of_find?_eq_some h, ?_⟩
    simpa using List.find?_some h

theorem contains_iff {g : Graph} {id : String} : g.contains id = true ↔ id ∈ g.ids := by
  simp [contains, Option.isSome_iff_exists, node?_eq_some_iff, ids]

end RelGraph.Graph
