import RelGraph.Keyed

/-! JSON values. Whole numbers and floating-point numbers are kept apart, and an object lists its
members in the order in which they are written. The values that are stored as properties have
objects with ascending keys; `Json.Stored` says so. -/

namespace RelGraph

inductive Json
  | null
  | bool (b : Bool)
  | int (n : Int)
  | float (x : Float)
  | str (s : String)
  | arr (items : List Json)
  | obj (members : List (String × Json))
  deriving Inhabited

namespace Json

instance : Coe String Json := ⟨str⟩

instance : Coe Bool Json := ⟨bool⟩

def ofNat (n : Nat) : Json := int n

def strings (l : List String) : Json := arr (l.map str)

/-- The whole numbers that can be written: the signed and the unsigned ones of 64 bits. -/
def isWritable (n : Int) : Bool := -(Nat.pow 2 63 : Int) ≤ n && n < Nat.pow 2 64

/-- A value as it is stored: whole numbers fit, and objects have strictly ascending keys. -/
def Stored : Json → Prop
  | null | bool _ | float _ | str _ => True
  | int n => isWritable n = true
  | arr items => All items
  | obj members => (members.map Prod.fst).Pairwise (· < ·) ∧ AllMembers members
where
  All : List Json → Prop
    | [] => True
    | j :: rest => Stored j ∧ All rest
  AllMembers : List (String × Json) → Prop
    | [] => True
    | (_, j) :: rest => Stored j ∧ AllMembers rest

/-- How deep arrays and objects are nested. -/
def depth : Json → Nat
  | arr items => deepest items + 1
  | obj members => deepestMember members + 1
  | _ => 0
where
  deepest : List Json → Nat
    | [] => 0
    | j :: rest => max (depth j) (deepest rest)
  deepestMember : List (String × Json) → Nat
    | [] => 0
    | (_, j) :: rest => max (depth j) (deepestMember rest)

end Json

end RelGraph
