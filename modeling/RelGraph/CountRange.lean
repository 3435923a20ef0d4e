/-! Ranges of counts: tests on a natural number. Bounds are inclusive unless their name says
otherwise, and zero is a number like any other. -/

namespace RelGraph

/-- A test on a count. -/
inductive CountRange
  | any
  | equal (n : Nat)
  | notEqual (n : Nat)
  | lessThan (n : Nat)
  | atMost (n : Nat)
  | greaterThan (n : Nat)
  | atLeast (n : Nat)
  | between (min max : Nat)
  | outside (min max : Nat)
  deriving DecidableEq, Repr

namespace CountRange

def includes : CountRange → Nat → Bool
  | any, _ => true
  | equal n, v => v == n
  | notEqual n, v => v != n
  | lessThan n, v => v < n
  | atMost n, v => v ≤ n
  | greaterThan n, v => v > n
  | atLeast n, v => v ≥ n
  | between min max, v => min ≤ v && v ≤ max
  | outside min max, v => !(min ≤ v && v ≤ max)

/-- The range as it is shown to a reader. -/
def text : CountRange → String
  | any => "any"
  | equal n => "== " ++ toString n
  | notEqual n => "!= " ++ toString n
  | lessThan n => "< " ++ toString n
  | atMost n => "<= " ++ toString n
  | greaterThan n => "> " ++ toString n
  | atLeast n => ">= " ++ toString n
  | between min max => "in " ++ toString min ++ "..=" ++ toString max
  | outside min max => "not in " ++ toString min ++ "..=" ++ toString max

end CountRange

end RelGraph
