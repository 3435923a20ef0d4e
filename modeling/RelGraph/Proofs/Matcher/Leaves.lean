import Mathlib.Data.List.Forall2
import RelGraph.Proofs.Lists
import RelGraph.Proofs.Matcher

/-! Matchers and the bits at their leaves. A leaf has one bit for a direction and a relation: it is
set when the flag of the direction is set and the scoped set has the identifier of the relation.
The shape of a matcher and these bits decide what it opens, nothing else does, and to set more bits
never closes anything. Without a set bit everything is closed, because a combination without parts
is closed. -/

namespace RelGraph.Matcher

/-- Induction over the parts of a matcher. -/
@[elab_as_elim, induction_eliminator]
theorem tree_induction {motive : Matcher → Prop} (deny : motive .deny)
    (within : ∀ set forward reverse, motive (.within set forward reverse))
    (allOf : ∀ parts, (∀ m ∈ parts, motive m) → motive (.allOf parts))
    (anyOf : ∀ parts, (∀ m ∈ parts, motive m) → motive (.anyOf parts))
    (m : Matcher) : motive m :=
  Matcher.rec (motive_2 := fun parts => ∀ m ∈ parts, motive m) deny within allOf anyOf (by simp)
    (fun _ _ hm hrest => List.forall_mem_cons.2 ⟨hm, hrest⟩) m

/-! ### Shapes and leaves -/

/-- How a matcher is put together, whatever stands at its leaves. -/
inductive Shape
  | leaf
  | allOf (parts : List Shape)
  | anyOf (parts : List Shape)

def shape : Matcher → Shape
  | deny | within _ _ _ => .leaf
  | allOf parts => .allOf (shapes parts)
  | anyOf parts => .anyOf (shapes parts)
where
  shapes : List Matcher → List Shape
    | [] => []
    | m :: rest => shape m :: shapes rest

/-- The parts that are not combinations, from left to right. -/
def leaves : Matcher → List Matcher
  | deny => [deny]
  | within set forward reverse => [within set forward reverse]
  | allOf parts | anyOf parts => leavesOf parts
where
  leavesOf : List Matcher → List Matcher
    | [] => []
    | m :: rest => leaves m ++ leavesOf rest

/-- The bit of a leaf. -/
def bit (d : Direction) (r : Relation) : Matcher → Bool
  | within set forward reverse =>
    (match d with
      | .forward => forward
      | .reverse => reverse) && set.containsId r.id
  | deny | allOf _ | anyOf _ => false

def bits (d : Direction) (r : Relation) (m : Matcher) : List Bool := m.leaves.map (bit d r)

/-- The sets to which leaves are scoped. -/
def scopes (m : Matcher) : List RelationSet :=
  m.leaves.filterMap fun
    | within set _ _ => some set
    | deny | allOf _ | anyOf _ => none

/-- The second list has a set bit wherever the first one has. -/
def Below (bits others : List Bool) : Prop :=
  List.Forall₂ (fun b c => b = true → c = true) bits others

variable {d e : Direction} {r s : Relation} {m n : Matcher}

theorem shapes_eq_map (parts : List Matcher) : shape.shapes parts = parts.map shape := by
  induction parts with
  | nil => rfl
  | cons m rest ih => rw [shape.shapes, ih, List.map_cons]

theorem leavesOf_eq_flatMap (parts : List Matcher) :
    leaves.leavesOf parts = parts.flatMap leaves := by
  induction parts with
  | nil => rfl
  | cons m rest ih => rw [leaves.leavesOf, ih, List.flatMap_cons]

/-! ### By the form of the matcher -/

theorem bits_within {set : RelationSet} {forward reverse : Bool} :
    bits d r (.within set forward reverse) = [opens d r (.within set forward reverse)] := rfl

theorem bits_allOf (parts : List Matcher) : bits d r (.allOf parts) = parts.flatMap (bits d r) := by
  rw [bits, leaves, leavesOf_eq_flatMap, List.map_flatMap]
  rfl

theorem bits_anyOf (parts : List Matcher) : bits d r (.anyOf parts) = parts.flatMap (bits d r) := by
  rw [bits, leaves, leavesOf_eq_flatMap, List.map_flatMap]
  rfl

theorem map_shape_eq_iff {parts others : List Matcher} :
    parts.map shape = others.map shape ↔
      List.Forall₂ (fun m n => m.shape = n.shape) parts others := by
  rw [← List.forall₂_eq_eq_eq, List.forall₂_map_left_iff, List.forall₂_map_right_iff]

theorem exists_allOf_of_shape_eq {parts : List Matcher} (h : (allOf parts).shape = n.shape) :
    ∃ others, n = .allOf others ∧ List.Forall₂ (fun m n => m.shape = n.shape) parts others := by
  cases n with
  | allOf others =>
    rw [shape, shape, Shape.allOf.injEq, shapes_eq_map, shapes_eq_map, map_shape_eq_iff] at h
    exact ⟨others, rfl, h⟩
  | deny | within _ _ _ | anyOf _ => simp [shape] at h

theorem exists_anyOf_of_shape_eq {parts : List Matcher} (h : (anyOf parts).shape = n.shape) :
    ∃ others, n = .anyOf others ∧ List.Forall₂ (fun m n => m.shape = n.shape) parts others := by
  cases n with
  | anyOf others =>
    rw [shape, shape, Shape.anyOf.injEq, shapes_eq_map, shapes_eq_map, map_shape_eq_iff] at h
    exact ⟨others, rfl, h⟩
  | deny | within _ _ _ | allOf _ => simp [shape] at h

/-- What has the shape of a leaf is a leaf, and opens what its bit says. -/
theorem bits_of_shape_eq_leaf (h : m.shape = .leaf) : bits d r m = [opens d r m] := by
  cases m with
  | deny => rfl
  | within set forward reverse => rfl
  | allOf parts | anyOf parts => simp [shape] at h

/-- The shape tells how many leaves there are. -/
theorem length_bits_of_shape_eq (h : m.shape = n.shape) :
    (m.bits d r).length = (n.bits e s).length := by
  induction m generalizing n with
  | deny | within set forward reverse =>
    have hn : n.shape = .leaf := h.symm
    rw [bits_of_shape_eq_leaf rfl, bits_of_shape_eq_leaf hn]
    rfl
  | allOf parts ih =>
    obtain ⟨others, rfl, hparts⟩ := exists_allOf_of_shape_eq h
    have hlength := hparts.of_mem ih
    rw [bits_allOf, bits_allOf, List.length_flatMap, List.length_flatMap,
      hlength.map_eq_map fun _ _ hmn => hmn.symm]
  | anyOf parts ih =>
    obtain ⟨others, rfl, hparts⟩ := exists_anyOf_of_shape_eq h
    have hlength := hparts.of_mem ih
    rw [bits_anyOf, bits_anyOf, List.length_flatMap, List.length_flatMap,
      hlength.map_eq_map fun _ _ hmn => hmn.symm]

/-! ### More bits open more -/

/-- Where the bits of all parts together are below others, those of each part are. -/
theorem forall₂_below_of_flatMap {parts others : List Matcher}
    (hshape : List.Forall₂ (fun m n => m.shape = n.shape) parts others)
    (hbits : Below (parts.flatMap (bits d r)) (others.flatMap (bits e s))) :
    List.Forall₂ (fun m n => m.shape = n.shape ∧ Below (m.bits d r) (n.bits e s)) parts others := by
  induction hshape with
  | nil => exact .nil
  | @cons m n parts others hmn _ ih =>
    rw [List.flatMap_cons, List.flatMap_cons] at hbits
    have hlength : (n.bits e s).length = (m.bits d r).length := length_bits_of_shape_eq hmn.symm
    have hfirst := List.forall₂_take_append _ _ _ hbits
    have hrest := List.forall₂_drop_append _ _ _ hbits
    rw [hlength, List.take_left] at hfirst
    rw [hlength, List.drop_left] at hrest
    exact .cons ⟨hmn, hfirst⟩ (ih hrest)

/-- To set more bits never closes what is open. -/
theorem opens_of_below (hshape : m.shape = n.shape)
    (hbits : Below (m.bits d r) (n.bits e s)) (h : m.opens d r = true) :
    n.opens e s = true := by
  induction m generalizing n with
  | deny => simp at h
  | within set forward reverse =>
    have hn : n.shape = .leaf := hshape.symm
    rw [bits_within, bits_of_shape_eq_leaf hn, h] at hbits
    obtain ⟨hle, -⟩ := List.forall₂_cons.1 hbits
    exact hle rfl
  | allOf parts ih =>
    obtain ⟨others, rfl, hparts⟩ := exists_allOf_of_shape_eq hshape
    rw [bits_allOf, bits_allOf] at hbits
    have hopens := (forall₂_below_of_flatMap hparts hbits).of_mem fun m hm n hmn =>
      ih m hm hmn.1 hmn.2
    -- an empty combination is closed, so it has to be shown that the other one has parts, too
    obtain ⟨hne, hall⟩ := opens_allOf.1 h
    refine opens_allOf.2 ⟨hopens.ne_nil_iff.1 hne, fun n hn => ?_⟩
    obtain ⟨m, hm, hmn⟩ := hopens.exists_mem_left hn
    exact hmn (hall m hm)
  | anyOf parts ih =>
    obtain ⟨others, rfl, hparts⟩ := exists_anyOf_of_shape_eq hshape
    rw [bits_anyOf, bits_anyOf] at hbits
    have hopens := (forall₂_below_of_flatMap hparts hbits).of_mem fun m hm n hmn =>
      ih m hm hmn.1 hmn.2
    obtain ⟨m, hm, hopen⟩ := opens_anyOf.1 h
    obtain ⟨n, hn, hmn⟩ := hopens.exists_mem hm
    exact opens_anyOf.2 ⟨n, hn, hmn hopen⟩

/-- What is open is so by a bit that is set. -/
theorem exists_bit_of_opens (h : m.opens d r = true) : true ∈ m.bits d r := by
  induction m with
  | deny => simp at h
  | within set forward reverse => simp [bits_within, h]
  | allOf parts ih =>
    obtain ⟨hne, hall⟩ := opens_allOf.1 h
    obtain ⟨m, hm⟩ := List.exists_mem_of_ne_nil parts hne
    rw [bits_allOf]
    exact List.mem_flatMap.2 ⟨m, hm, ih m hm (hall m hm)⟩
  | anyOf parts ih =>
    obtain ⟨m, hm, hopen⟩ := opens_anyOf.1 h
    rw [bits_anyOf]
    exact List.mem_flatMap.2 ⟨m, hm, ih m hm hopen⟩

/-- A bit is set only where a scoped set has the relation. -/
theorem exists_scope_of_bit (h : true ∈ m.bits d r) :
    ∃ set ∈ m.scopes, set.containsId r.id = true := by
  obtain ⟨leaf, hleaf, hbit⟩ := List.mem_map.1 h
  cases leaf with
  | within set forward reverse =>
    have hset : set ∈ m.scopes := List.mem_filterMap.2 ⟨_, hleaf, rfl⟩
    exact ⟨set, hset, (Bool.and_eq_true_iff.1 hbit).2⟩
  | deny | allOf _ | anyOf _ => simp [bit] at hbit

/-! ### The whole -/

/-- What a matcher opens is a monotone function of the bits at its leaves. Matchers of one shape with
the same bits open the same, and to set more bits never closes what is open. Without a set bit
nothing is open, so nothing outside the scoped sets is ever opened. -/
theorem opens_mono_of_bits (m n : Matcher) (d e : Direction) (r s : Relation) :
    (m.shape = n.shape → m.bits d r = n.bits e s → m.opens d r = n.opens e s) ∧
    (m.shape = n.shape → Below (m.bits d r) (n.bits e s) →
      m.opens d r = true → n.opens e s = true) ∧
    ((∀ b ∈ m.bits d r, b = false) → m.opens d r = false) ∧
    ((∀ set ∈ m.scopes, set.containsId r.id = false) → m.opens d r = false) := by
  refine ⟨?_, opens_of_below, ?_, ?_⟩
  · intro hshape hbits
    have hbelow : Below (m.bits d r) (n.bits e s) := hbits ▸ List.forall₂_same.2 fun _ _ => id
    have habove : Below (n.bits e s) (m.bits d r) := hbits ▸ List.forall₂_same.2 fun _ _ => id
    exact Bool.eq_iff_iff.2 ⟨opens_of_below hshape hbelow, opens_of_below hshape.symm habove⟩
  · intro hbits
    refine Bool.eq_false_iff.2 fun hopen => ?_
    simpa using hbits true (exists_bit_of_opens hopen)
  · intro hscopes
    refine Bool.eq_false_iff.2 fun hopen => ?_
    obtain ⟨set, hset, hmem⟩ := exists_scope_of_bit (exists_bit_of_opens hopen)
    simp [hscopes set hset] at hmem

/-- What has to be in the first set and in one of the others. -/
def sampleTree (first second third : RelationSet) (forward reverse : Bool) : Matcher :=
  .allOf [.within first true false,
    .anyOf [.deny, .within second true reverse, .within third forward true]]

theorem opens_mono_of_bits_sample :
    let calls : Relation := ⟨"calls", "calls", "calls", rfl⟩
    let relabelled : Relation := ⟨"calls", "invokes", "invokes", rfl⟩
    let imports : Relation := ⟨"imports", "imports", "imports", rfl⟩
    let owns : Relation := ⟨"owns", "owns", "owns", rfl⟩
    let near := RelationSet.ofList "near" [calls]
    let wide := RelationSet.ofList "wide" [imports, calls]
    let m := sampleTree near near wide false false
    let n := sampleTree wide near near false true
    let more := sampleTree near wide wide true true
    (m.shape = n.shape ∧ m.bits .forward calls = n.bits .forward relabelled ∧
      m.opens .forward calls = n.opens .forward relabelled) ∧
    (m.shape = more.shape ∧ Below (m.bits .forward calls) (more.bits .forward calls) ∧
      m.opens .forward calls = true ∧ more.opens .forward calls = true) ∧
    ((∀ b ∈ m.bits .forward imports, b = false) ∧ m.opens .forward imports = false) ∧
    (∀ set ∈ m.scopes, set.containsId owns.id = false) ∧ m.opens .reverse owns = false := by
  intro calls relabelled imports owns near wide m n more
  have hbits : m.bits .forward calls = n.bits .forward relabelled := by decide
  have hbelow : Below (m.bits .forward calls) (more.bits .forward calls) := by
    have hm : m.bits .forward calls = [true, false, true, false] := by decide
    have hmore : more.bits .forward calls = [true, false, true, true] := by decide
    rw [hm, hmore]
    exact .cons id (.cons id (.cons id (.cons (fun _ => rfl) .nil)))
  have hopen : m.opens .forward calls = true := by decide
  have hclosed : ∀ b ∈ m.bits .forward imports, b = false := by decide
  have hscopes : ∀ set ∈ m.scopes, set.containsId owns.id = false := by
    have hm : m.scopes = [near, near, wide] := rfl
    have hnear : near.containsId owns.id = false := by decide
    have hwide : wide.containsId owns.id = false := by decide
    simp [hm, hnear, hwide]
  exact ⟨⟨rfl, hbits, (opens_mono_of_bits m n .forward .forward calls relabelled).1 rfl hbits⟩,
    ⟨rfl, hbelow, hopen,
      (opens_mono_of_bits m more .forward .forward calls calls).2.1 rfl hbelow hopen⟩,
    ⟨hclosed, (opens_mono_of_bits m n .forward .forward imports calls).2.2.1 hclosed⟩,
    hscopes, (opens_mono_of_bits m n .reverse .forward owns calls).2.2.2 hscopes⟩

end RelGraph.Matcher
