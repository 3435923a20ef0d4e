import Mathlib.Tactic.Common
import RelGraph.Matcher
import RelGraph.Proofs.Keyed

/-! When a matcher opens a direction for a relation, by the form of the matcher and by the way it
was combined. A chain of combinations becomes one flat matcher wherever its first part allows that,
and it opens what all of its parts, or some of them, open. -/

namespace RelGraph

/-- A set has a relation when it has one with its identifier. -/
theorem RelationSet.contains_ofList_iff {name : String} {l : List Relation} {r : Relation} :
    (RelationSet.ofList name l).contains r = true ↔ r.id ∈ l.map Relation.id := by
  rw [contains, containsId, ofList, Ascending.contains_iff, Ascending.mem_keys_ofList]

namespace Matcher

variable {d : Direction} {r : Relation}

@[simp] theorem opens_deny : opens d r .deny = false := rfl

theorem opens_within {set : RelationSet} {forward reverse : Bool} :
    opens d r (.within set forward reverse) = true ↔
      (match d with | .forward => forward | .reverse => reverse) = true ∧
        set.contains r = true := by
  cases d <;> simp [opens]

theorem opens_all (parts : List Matcher) :
    opens.all d r parts = true ↔ ∀ m ∈ parts, opens d r m = true := by
  induction parts with
  | nil => simp [opens.all]
  | cons m rest ih => simp [opens.all, ih]

theorem opens_any (parts : List Matcher) :
    opens.any d r parts = true ↔ ∃ m ∈ parts, opens d r m = true := by
  induction parts with
  | nil => simp [opens.any]
  | cons m rest ih => simp [opens.any, ih]

theorem opens_allOf {parts : List Matcher} :
    opens d r (.allOf parts) = true ↔ parts ≠ [] ∧ ∀ m ∈ parts, opens d r m = true := by
  rw [opens, Bool.and_eq_true, opens_all]
  simp

theorem opens_anyOf {parts : List Matcher} :
    opens d r (.anyOf parts) = true ↔ ∃ m ∈ parts, opens d r m = true := by
  rw [opens, opens_any]

/-! ### Combining -/

theorem opens_and {a b : Matcher} :
    opens d r (a.and b) = true ↔ opens d r a = true ∧ opens d r b = true := by
  cases a with
  | allOf parts =>
    cases parts with
    | nil =>
      -- the empty conjunction is closed and stays empty
      simp [and, opens_allOf]
    | cons m parts =>
      have hform : (allOf (m :: parts)).and b = allOf (m :: parts ++ [b]) := rfl
      rw [hform, opens_allOf, opens_allOf]
      simp [and_assoc, or_imp, forall_and]
  | deny => simp [and, opens_allOf]
  | within set forward reverse => simp [and, opens_allOf]
  | anyOf parts => simp [and, opens_allOf]

theorem opens_or {a b : Matcher} :
    opens d r (a.or b) = true ↔ opens d r a = true ∨ opens d r b = true := by
  cases a with
  | anyOf parts =>
    have hform : (anyOf parts).or b = anyOf (parts ++ [b]) := rfl
    rw [hform, opens_anyOf, opens_anyOf]
    simp [or_and_right, exists_or]
  | deny => simp [or, opens_anyOf]
  | within set forward reverse => simp [or, opens_anyOf]
  | allOf parts => simp [or, opens_anyOf]

theorem opens_foldl_and {first : Matcher} {rest : List Matcher} :
    opens d r (rest.foldl and first) = true ↔ ∀ m ∈ first :: rest, opens d r m = true := by
  induction rest generalizing first with
  | nil => simp
  | cons m rest ih =>
    rw [List.foldl_cons, ih, List.forall_mem_cons, opens_and]
    simp only [List.forall_mem_cons, and_assoc]

theorem opens_foldl_or {first : Matcher} {rest : List Matcher} :
    opens d r (rest.foldl or first) = true ↔ ∃ m ∈ first :: rest, opens d r m = true := by
  induction rest generalizing first with
  | nil => simp
  | cons m rest ih =>
    rw [List.foldl_cons, ih, List.exists_mem_cons_iff, opens_or]
    simp only [List.exists_mem_cons_iff, or_assoc]

theorem foldl_and_allOf_nil (rest : List Matcher) : rest.foldl and (allOf []) = allOf [] := by
  induction rest with
  | nil => rfl
  | cons m rest ih => exact ih

theorem foldl_and_allOf_cons (part : Matcher) (parts rest : List Matcher) :
    rest.foldl and (allOf (part :: parts)) = allOf (part :: parts ++ rest) := by
  induction rest generalizing parts with
  | nil => simp
  | cons m rest ih =>
    have hstep : (allOf (part :: parts)).and m = allOf (part :: (parts ++ [m])) := rfl
    rw [List.foldl_cons, hstep, ih]
    simp

theorem foldl_or_anyOf (parts rest : List Matcher) :
    rest.foldl or (anyOf parts) = anyOf (parts ++ rest) := by
  induction rest generalizing parts with
  | nil => simp
  | cons m rest ih =>
    have hstep : (anyOf parts).or m = anyOf (parts ++ [m]) := rfl
    rw [List.foldl_cons, hstep, ih]
    simp

/-- A chain of conjunctions opens what all of its matchers open, and a chain of disjunctions what
some of them opens, whatever the matchers look like. Both are flat where they begin with a matcher
of their own kind, except that a chain that begins with the empty conjunction stays closed. -/
theorem opens_foldl_and_or (d : Direction) (r : Relation) (first : Matcher) (rest : List Matcher) :
    (opens d r (rest.foldl and first) = true ↔ ∀ m ∈ first :: rest, opens d r m = true) ∧
      (opens d r (rest.foldl or first) = true ↔ ∃ m ∈ first :: rest, opens d r m = true) ∧
      (∀ part parts, rest.foldl and (allOf (part :: parts)) = allOf (part :: parts ++ rest)) ∧
      rest.foldl and (allOf []) = allOf [] ∧
      ∀ parts, rest.foldl or (anyOf parts) = anyOf (parts ++ rest) :=
  ⟨opens_foldl_and, opens_foldl_or, fun part parts => foldl_and_allOf_cons part parts rest,
    foldl_and_allOf_nil rest, fun parts => foldl_or_anyOf parts rest⟩

end Matcher

end RelGraph
