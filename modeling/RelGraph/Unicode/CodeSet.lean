/-! Sets of code points, written as stretches in ascending order. Two neighbours never touch:
between the end of one and the start of the next there is a code point that belongs to neither.
Surrogates have no characters, so it does not matter whether a stretch goes on through them. -/

namespace RelGraph.Unicode

/-- The code points from `first` to `last`, both included. -/
structure Stretch where
  first : Nat
  last : Nat
  deriving DecidableEq, Repr

abbrev CodeSet := List Stretch

/-- The greatest code point. -/
def lastCode : Nat := 0x10ffff

/-- The code point of the next character. -/
def following (code : Nat) : Nat := if code = 0xd7ff then 0xe000 else code + 1

/-- The code point of the character before. -/
def preceding (code : Nat) : Nat := if code = 0xe000 then 0xd7ff else code - 1

namespace Stretch

def contains (r : Stretch) (code : Nat) : Bool := r.first ≤ code && code ≤ r.last

def single (code : Nat) : Stretch := ⟨code, code⟩

/-- The stretch between two code points, whichever of them is the first. -/
def between (a b : Nat) : Stretch := ⟨min a b, max a b⟩

/-- Order by the first code point, then by the last one. -/
def le (a b : Stretch) : Bool := a.first < b.first || (a.first == b.first && a.last ≤ b.last)

/-- What two stretches have in common. -/
def inter (a b : Stretch) : List Stretch :=
  let first := max a.first b.first
  let last := min a.last b.last
  if first ≤ last then [⟨first, last⟩] else []

end Stretch

namespace CodeSet

def contains (s : CodeSet) (code : Nat) : Bool := s.any (·.contains code)

/-- Joins the stretches that overlap or touch; they come in order. -/
def joinFrom (a : Stretch) : List Stretch → CodeSet
  | [] => [a]
  | b :: rest =>
    if b.first ≤ a.last + 1 then joinFrom ⟨a.first, max a.last b.last⟩ rest
    else a :: joinFrom b rest

/-- The set of the code points that lie in some of the stretches. -/
def ofStretches (l : List Stretch) : CodeSet :=
  match l.mergeSort Stretch.le with
  | [] => []
  | a :: rest => joinFrom a rest

/-- The set whose stretches are given by lengths: how many code points do not belong to it, how many
do, and so on. -/
def ofGaps (lengths : List Nat) : CodeSet := go 0 lengths
where
  go (start : Nat) : List Nat → CodeSet
    | gap :: length :: rest =>
      ⟨start + gap, start + gap + length - 1⟩ :: go (start + gap + length) rest
    | _ => []

/-- All code points. -/
def full : CodeSet := [⟨0, lastCode⟩]

def single (code : Nat) : CodeSet := [.single code]

def union (a b : CodeSet) : CodeSet := if b.isEmpty then a else ofStretches (a ++ b)

def inter : CodeSet → CodeSet → CodeSet
  | a :: as, b :: bs =>
    a.inter b ++ if a.last < b.last then inter as (b :: bs) else inter (a :: as) bs
  | _, _ => []
termination_by a b => a.length + b.length

/-- The members of the first set that are not in the second. -/
def diff : CodeSet → CodeSet → CodeSet
  | [], _ => []
  | as, [] => as
  | a :: as, b :: bs =>
    if b.last < a.first then diff (a :: as) bs
    else if a.last < b.first then a :: diff as (b :: bs)
    else
      let before : CodeSet := if a.first < b.first then [⟨a.first, preceding b.first⟩] else []
      before ++
        if b.last < a.last then diff (⟨following b.last, a.last⟩ :: as) bs
        else diff as (b :: bs)
termination_by a b => a.length + b.length

def symmDiff (a b : CodeSet) : CodeSet := (a.union b).diff (a.inter b)

/-- The stretches between those of a set. Where one ends right before the surrogates and the next
starts right after them, nothing lies between; the two end points then stand for the gap. -/
def gaps : CodeSet → CodeSet
  | a :: b :: rest => .between (following a.last) (preceding b.first) :: gaps (b :: rest)
  | _ => []

/-- The characters that are not in a set. -/
def compl (s : CodeSet) : CodeSet :=
  match s.head?, s.getLast? with
  | some a, some z =>
    let before : CodeSet := if 0 < a.first then [⟨0, preceding a.first⟩] else []
    let after : CodeSet := if z.last < lastCode then [⟨following z.last, lastCode⟩] else []
    before ++ gaps s ++ after
  | _, _ => full

/-- Whether all members are basic characters. -/
def isAscii (s : CodeSet) : Bool := List.all s (·.last < 128)

/-- The only member, if there is just one. -/
def single? : CodeSet → Option Nat
  | [r] => if r.first = r.last then some r.first else none
  | _ => none

end CodeSet

end RelGraph.Unicode
