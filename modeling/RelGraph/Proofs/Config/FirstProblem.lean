import RelGraph.Proofs.Config.Ranges
import RelGraph.Proofs.Config.Stages

/-! The problem of a stage that is refused. A leaf of a stage has a problem by itself: a pattern
that does not compile, a matcher that is not configured, or range keys that say no range. Validation
finds the problem of the first leaf that has one, from left to right at every depth, and so does the
building of the stage. -/

namespace RelGraph

namespace Outcome

variable {ε α β : Type}

/-- The problem of an outcome that was refused. -/
def error? : Except ε α → Option ε
  | .ok _ => none
  | .error e => some e

theorem error?_eq_some {x : Except ε α} {e : ε} : error? x = some e ↔ x = .error e := by
  cases x <;> simp [error?]

@[simp] theorem error?_map (x : Except ε α) (f : α → β) : error? (x.map f) = error? x := by
  cases x <;> rfl

/-- A check of a list finds the first problem of its entries. -/
theorem error?_forM {check : α → Except ε Unit} {problem? : α → Option ε} {l : List α}
    (h : ∀ a ∈ l, error? (check a) = problem? a) :
    error? (l.forM check) = l.findSome? problem? := by
  rw [List.forM_eq_forM]
  induction l with
  | nil => rfl
  | cons a rest ih =>
    obtain ⟨ha, hrest⟩ := List.forall_mem_cons.1 h
    rw [List.forM_cons, List.findSome?_cons, ← ha, ← ih hrest]
    cases check a <;> rfl

end Outcome

namespace Config

/-! ### Range keys -/

namespace RangeKeys

variable {k : RangeKeys}

/-- The fault of bounds of which the first is greater than the second. -/
def inverted? : Option (Nat × Nat) → Option SchemaFault
  | some (min, max) => if max < min then some (.invertedRange min max) else .none
  | .none => .none

@[simp] theorem inverted?_none : inverted? .none = .none := rfl

/-- What keeps the keys from saying a range: two of them are set, or bounds are out of order. -/
def fault? (k : RangeKeys) : Option SchemaFault :=
  if 1 < k.flags.count true then some .severalRanges
  else (inverted? k.between).or (inverted? k.outside)

theorem between_eq_none (h : ∀ min max, .between min max ∉ k.ranges) : k.between = .none := by
  cases hb : k.between with
  | none => rfl
  | some bounds => exact absurd (between_mem_ranges.2 hb) (h _ _)

theorem outside_eq_none (h : ∀ min max, .outside min max ∉ k.ranges) : k.outside = .none := by
  cases hb : k.outside with
  | none => rfl
  | some bounds => exact absurd (outside_mem_ranges.2 hb) (h _ _)

theorem error?_inverted (range : CountRange) (min max : Nat) :
    Outcome.error? (if min ≤ max then .ok range else .error (.schema (.invertedRange min max))) =
      (inverted? (some (min, max))).map Problem.schema := by
  rw [inverted?]
  by_cases hle : min ≤ max
  · rw [if_pos hle, if_neg (Nat.not_lt.2 hle)]
    rfl
  · rw [if_neg hle, if_pos (Nat.not_le.1 hle)]
    rfl

/-- The bounds of the only key that is set are looked at, if it has bounds. -/
theorem error?_checkBounds {range : CountRange} (h : k.ranges = [range]) :
    Outcome.error? (checkBounds range) =
      ((inverted? k.between).or (inverted? k.outside)).map .schema := by
  cases range with
  | between min max =>
    have hb : k.between = some (min, max) := between_mem_ranges.1 (by simp [h])
    have ho : k.outside = .none := outside_eq_none (by simp [h])
    rw [checkBounds, error?_inverted, hb, ho, inverted?_none, Option.or_none]
  | outside min max =>
    have hb : k.between = .none := between_eq_none (by simp [h])
    have ho : k.outside = some (min, max) := outside_mem_ranges.1 (by simp [h])
    rw [checkBounds, error?_inverted, hb, ho, inverted?_none, Option.none_or]
  | _ =>
    -- a range without bounds is never refused
    rw [between_eq_none (by simp [h]), outside_eq_none (by simp [h])]
    rfl

theorem error?_toRange (k : RangeKeys) : Outcome.error? k.toRange = k.fault?.map .schema := by
  rw [toRange, fault?, ← length_ranges]
  split
  · next hnone =>
    rw [hnone, between_eq_none (by simp [hnone]), outside_eq_none (by simp [hnone])]
    rfl
  · next range hone =>
    rw [error?_checkBounds hone, hone]
    rfl
  · next hnone hone =>
    rw [if_pos (one_lt_length_ranges hnone hone)]
    rfl

end RangeKeys

/-! ### Stages -/

namespace StageEntry

/-- The stages in a stage that have none in them, from left to right at every depth. -/
def leaves : StageEntry → List StageEntry
  | nodeKinds kinds => [nodeKinds kinds]
  | namePattern pattern => [namePattern pattern]
  | members ids => [members ids]
  | degree matcher mode range => [degree matcher mode range]
  | not stage => leaves stage
  | all stages | any stages => leavesOf stages
where
  leavesOf : List StageEntry → List StageEntry
    | [] => []
    | s :: rest => leaves s ++ leavesOf rest

theorem findSome?_leavesOf {α : Type} (f : StageEntry → Option α) (stages : List StageEntry) :
    (leaves.leavesOf stages).findSome? f = stages.findSome? fun s => s.leaves.findSome? f := by
  induction stages with
  | nil => rfl
  | cons s rest ih =>
    rw [leaves.leavesOf, List.findSome?_append, ih, List.findSome?_cons]
    cases s.leaves.findSome? f <;> rfl

end StageEntry

variable {c : Config} {matchers : NamedMatchers}

/-- The problem of a leaf by itself. A matcher that is not configured is looked at before the range
keys beside it. -/
def leafProblem? (c : Config) : StageEntry → Option Problem
  | .namePattern pattern =>
    if Pattern.compiles pattern = true then none else some (.invalidPattern pattern)
  | .degree matcher _ range =>
    if matcher ∈ c.matchers.keys then range.fault?.map .schema else some (.unknownMatcher matcher)
  | .nodeKinds _ | .members _ | .not _ | .all _ | .any _ => none

theorem error?_checkStage (entry : StageEntry) :
    Outcome.error? (c.checkStage entry) = entry.leaves.findSome? c.leafProblem? := by
  induction entry with
  | nodeKinds kinds => rfl
  | members ids => rfl
  | namePattern pattern =>
    rw [checkStage, StageEntry.leaves, List.findSome?_singleton, leafProblem?]
    split <;> rfl
  | degree matcher mode range =>
    rw [checkStage, StageEntry.leaves, List.findSome?_singleton, leafProblem?]
    simp only [Listing.contains_iff]
    split
    · rw [Outcome.error?_map, RangeKeys.error?_toRange]
    · rfl
  | not stage ih => exact ih
  | all stages ih | any stages ih =>
    rw [checkStage, each_checkStage, Outcome.error?_forM ih, StageEntry.leaves,
      StageEntry.findSome?_leavesOf]

theorem error?_buildStage (hkeys : ∀ k, k ∈ matchers.keys ↔ k ∈ c.matchers.keys)
    (entry : StageEntry) :
    Outcome.error? (buildStage matchers entry) = Outcome.error? (c.checkStage entry) := by
  rw [checkStage_eq_map_buildStage hkeys, Outcome.error?_map]

/-! ### The whole -/

/-- Validation refuses a stage exactly when it cannot be built from matchers with the configured
names, and then both have the problem of its first leaf that has one, from left to right. -/
theorem checkStage_and_buildStage_first_problem (c : Config) (matchers : NamedMatchers)
    (hkeys : ∀ k, k ∈ matchers.keys ↔ k ∈ c.matchers.keys) (entry : StageEntry) :
    ((∃ e, c.checkStage entry = .error e) ↔ ∃ e, buildStage matchers entry = .error e) ∧
    ∀ e, (c.checkStage entry = .error e ↔ entry.leaves.findSome? c.leafProblem? = some e) ∧
      (buildStage matchers entry = .error e ↔ entry.leaves.findSome? c.leafProblem? = some e) := by
  have hcheck (e : Problem) :
      c.checkStage entry = .error e ↔ entry.leaves.findSome? c.leafProblem? = some e := by
    rw [← Outcome.error?_eq_some, error?_checkStage]
  have hbuild (e : Problem) :
      buildStage matchers entry = .error e ↔ entry.leaves.findSome? c.leafProblem? = some e := by
    rw [← Outcome.error?_eq_some, error?_buildStage hkeys, error?_checkStage]
  refine ⟨?_, fun e => ⟨hcheck e, hbuild e⟩⟩
  simp only [hcheck, hbuild]

/-- A configuration with one matcher. -/
def oneMatcherSample : Config := { Config.empty with matchers := .ofList [("near", .deny)] }

/-- Stages at three depths. The first problem is that of a matcher that is not configured, with
bounds out of order beside it and a pattern that does not compile behind it. -/
def faultySample : StageEntry :=
  .any [
    .not (.all [.members ["main"],
      .degree "near" .incident { RangeKeys.none with equal := some 2 }]),
    .all [.any [], .degree "far" .successors { RangeKeys.none with between := some (3, 1) }],
    .namePattern "("]

theorem checkStage_and_buildStage_first_problem_sample :
    (∀ k, k ∈ (.ofList [("near", .deny)] : NamedMatchers).keys ↔
      k ∈ oneMatcherSample.matchers.keys) ∧
    oneMatcherSample.checkStage faultySample = .error (.unknownMatcher "far") ∧
    buildStage (.ofList [("near", .deny)]) faultySample = .error (.unknownMatcher "far") := by
  have hkeys : ∀ k, k ∈ (.ofList [("near", .deny)] : NamedMatchers).keys ↔
      k ∈ oneMatcherSample.matchers.keys := fun _ => Iff.rfl
  have hfirst : faultySample.leaves.findSome? oneMatcherSample.leafProblem? =
      some (.unknownMatcher "far") := by decide
  obtain ⟨-, hboth⟩ := checkStage_and_buildStage_first_problem oneMatcherSample _ hkeys faultySample
  exact ⟨hkeys, (hboth _).1.2 hfirst, (hboth _).2.2 hfirst⟩

end Config

end RelGraph
