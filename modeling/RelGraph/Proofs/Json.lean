import RelGraph.Json

/-! JSON values by their numbers. The values with whole numbers only keep their text: a
floating-point number may be rounded when it is read. A JSON value has finite numbers only. -/

namespace RelGraph.Json

/-- All numbers in the value are whole and can be written. -/
inductive Whole : Json → Prop
  | null : Whole .null
  | bool (b : Bool) : Whole (.bool b)
  | int {n : Int} (h : isWritable n = true) : Whole (.int n)
  | str (s : String) : Whole (.str s)
  | arr {items : List Json} (h : ∀ j ∈ items, Whole j) : Whole (.arr items)
  | obj {members : List (String × Json)} (h : ∀ m ∈ members, Whole m.2) : Whole (.obj members)

theorem whole_arr_map {α : Type} {f : α → Json} {l : List α} (h : ∀ a ∈ l, (f a).Whole) :
    (arr (l.map f)).Whole :=
  .arr (List.forall_mem_map.2 h)

theorem whole_strings (l : List String) : (strings l).Whole :=
  whole_arr_map fun s _ => .str s

/-- An object with one member, such as a choice with its content under its name. -/
theorem whole_member {key : String} {j : Json} (h : j.Whole) : (obj [(key, j)]).Whole :=
  .obj (by simpa using h)

/-- All numbers in the value are finite. -/
inductive Finite : Json → Prop
  | null : Finite .null
  | bool (b : Bool) : Finite (.bool b)
  | int (n : Int) : Finite (.int n)
  | float {x : Float} (h : x.isFinite = true) : Finite (.float x)
  | str (s : String) : Finite (.str s)
  | arr {items : List Json} (h : ∀ j ∈ items, Finite j) : Finite (.arr items)
  | obj {members : List (String × Json)} (h : ∀ m ∈ members, Finite m.2) : Finite (.obj members)

theorem Whole.finite {v : Json} (h : v.Whole) : v.Finite := by
  induction h with
  | null => exact .null
  | bool b => exact .bool b
  | @int n _ => exact .int n
  | str s => exact .str s
  | arr _ ih => exact .arr ih
  | obj _ ih => exact .obj ih

/-! ### Parts of stored values -/

theorem stored_arr_iff {items : List Json} : Stored (arr items) ↔ ∀ j ∈ items, Stored j := by
  rw [Stored]
  induction items with
  | nil => simp [Stored.All]
  | cons j rest ih => rw [Stored.All, List.forall_mem_cons, ih]

theorem stored_obj_iff {members : List (String × Json)} :
    Stored (obj members) ↔
      (members.map Prod.fst).Pairwise (· < ·) ∧ ∀ m ∈ members, Stored m.2 := by
  rw [Stored]
  refine and_congr Iff.rfl ?_
  induction members with
  | nil => simp [Stored.AllMembers]
  | cons m rest ih => rw [Stored.AllMembers, List.forall_mem_cons, ih]

/-! ### Depth of parts -/

theorem deepest_le_iff {items : List Json} {n : Nat} :
    depth.deepest items ≤ n ↔ ∀ j ∈ items, j.depth ≤ n := by
  induction items with
  | nil => simp [depth.deepest]
  | cons j rest ih => rw [depth.deepest, Nat.max_le, List.forall_mem_cons, ih]

theorem deepestMember_le_iff {members : List (String × Json)} {n : Nat} :
    depth.deepestMember members ≤ n ↔ ∀ m ∈ members, m.2.depth ≤ n := by
  induction members with
  | nil => simp [depth.deepestMember]
  | cons m rest ih => rw [depth.deepestMember, Nat.max_le, List.forall_mem_cons, ih]

/-- An array fits under a limit when there is one level for it and its items fit below. -/
theorem depth_arr_le_iff {items : List Json} {n : Nat} :
    (arr items).depth ≤ n ↔ 0 < n ∧ ∀ j ∈ items, j.depth ≤ n - 1 := by
  rw [depth, ← deepest_le_iff]
  omega

theorem depth_arr_map_le {α : Type} {f : α → Json} {l : List α} {n : Nat}
    (h : ∀ a ∈ l, (f a).depth ≤ n) : (arr (l.map f)).depth ≤ n + 1 :=
  depth_arr_le_iff.2 ⟨n.succ_pos, List.forall_mem_map.2 h⟩

theorem depth_obj_le_iff {members : List (String × Json)} {n : Nat} :
    (obj members).depth ≤ n ↔ 0 < n ∧ ∀ m ∈ members, m.2.depth ≤ n - 1 := by
  rw [depth, ← deepestMember_le_iff]
  omega

end RelGraph.Json
