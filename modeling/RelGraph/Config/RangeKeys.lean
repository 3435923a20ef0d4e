import RelGraph.Config.Problem
import RelGraph.CountRange
import RelGraph.Datum

/-! Range keys: count ranges as a configuration writes them, with one key for each kind of range.
No key means any count; two keys are one too many. -/

namespace RelGraph.Config

/-- The keys that are set. -/
structure RangeKeys where
  equal : Option Nat
  notEqual : Option Nat
  lessThan : Option Nat
  atMost : Option Nat
  greaterThan : Option Nat
  atLeast : Option Nat
  between : Option (Nat × Nat)
  outside : Option (Nat × Nat)
  deriving DecidableEq, Repr, Inhabited

namespace RangeKeys

def none : RangeKeys :=
  ⟨.none, .none, .none, .none, .none, .none, .none, .none⟩

/-- The range of every key that is set. -/
def ranges (k : RangeKeys) : List CountRange :=
  [k.equal.map .equal, k.notEqual.map .notEqual, k.lessThan.map .lessThan,
    k.atMost.map .atMost, k.greaterThan.map .greaterThan, k.atLeast.map .atLeast,
    k.between.map fun b => .between b.1 b.2, k.outside.map fun b => .outside b.1 b.2].filterMap id

/-- Refuses bounds of which the first is greater than the second. -/
def checkBounds : CountRange → Except Problem CountRange
  | .between min max =>
    if min ≤ max then .ok (.between min max) else .error (.schema (.invertedRange min max))
  | .outside min max =>
    if min ≤ max then .ok (.outside min max) else .error (.schema (.invertedRange min max))
  | range => .ok range

/-- The range that the keys say, if they say one. -/
def toRange (k : RangeKeys) : Except Problem CountRange :=
  match k.ranges with
  | [] => .ok .any
  | [range] => checkBounds range
  | _ => .error (.schema .severalRanges)

/-! ### The written form -/

def names : List String :=
  ["equal", "not_equal", "less_than", "at_most", "greater_than", "at_least", "between", "outside"]

open Datum

/-- A list of two counts. -/
def bounds? : Datum → Option (Nat × Nat)
  | .list [min, max] => do return (← count? min, ← count? max)
  | _ => .none

/-- Keys that are left out or `null` are not set. -/
def ofDatum? (c : Conventions) (d : Datum) : Option RangeKeys := do
  let count := optional? .none (nullable? count?)
  let bounds := optional? .none (nullable? bounds?)
  match ← fields? c names d with
  | [equal, notEqual, lessThan, atMost, greaterThan, atLeast, between, outside] =>
    return ⟨← count equal, ← count notEqual, ← count lessThan, ← count atMost,
      ← count greaterThan, ← count atLeast, ← bounds between, ← bounds outside⟩
  | _ => .none

/-- The member of a key that is set. -/
def countMember (name : String) : Option Nat → List (String × Json)
  | .none => []
  | some n => [(name, .ofNat n)]

def boundsMember (name : String) : Option (Nat × Nat) → List (String × Json)
  | .none => []
  | some (min, max) => [(name, .arr [.ofNat min, .ofNat max])]

/-- The keys that are set, in their order. -/
def members (k : RangeKeys) : List (String × Json) :=
  countMember "equal" k.equal ++ countMember "not_equal" k.notEqual ++
    countMember "less_than" k.lessThan ++ countMember "at_most" k.atMost ++
    countMember "greater_than" k.greaterThan ++ countMember "at_least" k.atLeast ++
    boundsMember "between" k.between ++ boundsMember "outside" k.outside

end RangeKeys

end RelGraph.Config
