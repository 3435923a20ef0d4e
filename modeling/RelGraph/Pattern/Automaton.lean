import RelGraph.Pattern.ByteRegex
import Std.Data.HashMap

/-! The memory of the automata of an expression. There are two, one that reads a text from left to
right and one that reads it from right to left, and neither may take more than the limit. A state
takes thirty-two bytes; a state with a table of transitions takes eight more for each, and a
branching state four more for each of its branches. States are numbered as they are built. Where the
sequences of a set end alike, states are shared as far as tables of a fixed size remember them, so
what a set takes depends on the numbers of its states. -/

namespace RelGraph.Pattern

/-- How many states there are, and how many bytes they take beyond thirty-two each. -/
structure Memory where
  states : Nat
  more : Nat

namespace Memory

def bytes (m : Memory) : Nat := 32 * m.states + m.more

/-- No automaton may take more than ten binary megabytes. -/
def limit : Nat := 10 * Nat.pow 2 20

end Memory

namespace ByteRegex

/-- Building within the limit. -/
abbrev Build := StateT Memory Option

def spend (states more : Nat) : Build Unit := fun m =>
  let m : Memory := ⟨m.states + states, m.more + more⟩
  if m.bytes ≤ Memory.limit then some ((), m) else none

/-- A new state with some bytes of its own; gives its number. -/
def addState (more : Nat) : Build Nat := do
  let number := (← get).states
  spend 1 more
  return number

/-- So many new branches of branching states. -/
def branch (count : Nat) : Build Unit := spend 0 (4 * count)

/-- A new branch if the end that is to be joined is a branching state. -/
def join (branching : Bool) : Build Unit := if branching then branch 1 else pure ()

/-! ### Shared states -/

/-- Things that were built, by their slots: the thing and the number of its state. A thing that
comes into a slot takes the place of the one before. -/
abbrev Slots (α : Type) := Std.HashMap Nat (α × Nat)

/-- One step of the hash by exclusive or and multiplication. -/
def mix (hash : UInt64) (value : Nat) : UInt64 := (hash ^^^ value.toUInt64) * 1099511628211

/-- The hash of nothing. -/
def seed : UInt64 := 14695981039346656037

/-- The number of the state in the slot if it is of the same thing; otherwise a new one. -/
def sharedState {α : Type} [BEq α] (slot : Nat) (thing : α) (more : Nat) :
    StateT (Slots α) Build Nat := do
  match (← get)[slot]? with
  | some (other, number) => if other == thing then return number
  | none => pure ()
  let number ← addState more
  modify (·.insert slot (thing, number))
  return number

/-- A transition on the bytes of a range to the state of a number. -/
structure Transition where
  range : ByteRange
  target : Nat
  deriving DecidableEq

/-- How many slots there are for states that read from left to right. -/
def forwardSlots : UInt64 := 10000

/-- How many slots there are for states that read from right to left. -/
def backwardSlots : UInt64 := 1000

/-- A state with the given transitions. -/
def stateOf (transitions : List Transition) : StateT (Slots (List Transition)) Build Nat :=
  let hash := transitions.foldl (fun hash t =>
    mix (mix (mix hash t.range.first) t.range.last) t.target) seed
  sharedState (hash % forwardSlots).toNat transitions (8 * transitions.length)

/-- A state that is not complete: its transitions, the latest first, and the range of the transition
whose target is not built yet. -/
structure Draft where
  transitions : List Transition
  pending : Option ByteRange

def Draft.complete (d : Draft) (target : Nat) : Draft :=
  match d.pending with
  | some range => ⟨⟨range, target⟩ :: d.transitions, none⟩
  | none => d

/-- Builds a path of drafts from its end; gives the number of the first. -/
def complete (target : Nat) : List Draft → StateT (Slots (List Transition)) Build Nat
  | [] => return target
  | d :: rest => do
    let next ← complete target rest
    stateOf (d.complete next).transitions.reverse

/-- Adds a sequence to the path of the one before. What both start with is kept, and what is left of
the old path is built. -/
def addSequence (target : Nat) :
    List Draft → ByteSequence → StateT (Slots (List Transition)) Build (List Draft)
  | d :: rest, range :: more => do
    if d.pending == some range then
      return d :: (← addSequence target rest more)
    else
      let next ← complete target rest
      return { d.complete next with pending := some range } :: more.map fun r => ⟨[], some r⟩
  | drafts, _ => return drafts

/-- The states of a set that is read from left to right: states are shared that have the same
transitions. -/
def forwardSet (l : List ByteSequence) : Build Unit := do
  let target ← addState 0
  let go : StateT (Slots (List Transition)) Build Nat := do
    let drafts ← l.foldlM (addSequence target) [⟨[], none⟩]
    complete target drafts
  let _ ← go.run ∅

/-- The states of a sequence that is read from right to left, from the state of its end on: for each
range a state, shared if it leads from the same range to the same state. -/
def backwardSequence (target : Nat) : ByteSequence → StateT (Slots Transition) Build Nat
  | [] => return target
  | range :: rest => do
    let slot := mix (mix (mix seed target) range.first) range.last % backwardSlots
    let number ← sharedState slot.toNat ⟨range, target⟩ 0
    backwardSequence number rest

/-- The states of a set that is read from right to left: a branching state with a branch for each
sequence. -/
def backwardSet (l : List ByteSequence) : Build Unit := do
  let _ ← addState 0
  let target ← addState 0
  let go : StateT (Slots Transition) Build Unit :=
    l.forM fun sequence => do
      let _ ← backwardSequence target sequence
      branch 1
  let _ ← go.run ∅

/-! ### Words -/

/-- The words by their first byte, and what follows it. -/
def byFirst (list : List (List Nat)) : List (Nat × List (List Nat)) :=
  list.foldl (fun groups word =>
    match word with
    | [] => groups
    | byte :: rest => insertAt byte rest groups) []
where
  insertAt (byte : Nat) (rest : List Nat) :
      List (Nat × List (List Nat)) → List (Nat × List (List Nat))
    | [] => [(byte, [rest])]
    | (b, rests) :: groups =>
      if b = byte then (b, rests ++ [rest]) :: groups else (b, rests) :: insertAt byte rest groups

/-- Cuts a list of words at those that end here. One that ends here first of all, or when nothing
has come before but such, is not counted again. -/
def chunks (list : List (List Nat)) : List (List (List Nat)) :=
  go [] false [] list
where
  go (done : List (List (List Nat))) (met : Bool) (current : List (List Nat)) :
      List (List Nat) → List (List (List Nat))
    | [] => (current.reverse :: done).reverse
    | [] :: rest =>
      if !met && current.isEmpty && !done.isEmpty then go done met current rest
      else go (current.reverse :: done) (met || !current.isEmpty) [] rest
    | word :: rest => go done met (word :: current) rest

/-- The states that tell words apart, byte by byte. `fuel` is at least the length of the words. -/
def tree : Nat → List (List Nat) → Build Unit
  | 0, _ => return ()
  | fuel + 1, list => do
    if list.all List.isEmpty then return ()
    let parts := chunks list
    let groups := (parts.map byFirst).filter (!·.isEmpty)
    for chunk in groups do
      spend 1 (if chunk.length = 1 then 0 else 8 * chunk.length)
      for (_, rests) in chunk do
        tree fuel rests
    spend 1 (4 * (groups.length + (parts.length - 1)))

/-- The states of a choice between words. -/
def wordTree (list : List (List Nat)) : Build Unit := do
  spend 1 0
  tree (list.foldl (fun n word => max n word.length) 0 + 1) list

/-! ### Expressions -/

/-- Does a part so many more times, one after the other; tells whether the end is a branching state.
`last` tells it of the end so far. -/
def again (part : Build Bool) : Nat → Bool → Build Bool
  | 0, last => return last
  | k + 1, last => do
    let next ← part
    join last
    again part k next

/-- Exactly so many times. -/
def exactly (part : Build Bool) : Nat → Build Bool
  | 0 => do
    spend 1 0
    return false
  | k + 1 => do again part k (← part)

/-- At most so many times more, each within the one before. -/
def atMost (part : Build Bool) : Nat → Bool → Build Bool
  | 0, last => return last
  | k + 1, last => do
    spend 1 0
    let next ← part
    join last
    branch 2
    atMost part k next

/-- At least `min` times. -/
def atLeast (part : Build Bool) (consumes : Bool) : Nat → Build Bool
  | 0 => do
    if consumes then
      spend 1 0
      branch 1
      join (← part)
      return true
    else
      join (← part)
      spend 3 0
      branch 4
      return false
  | 1 => do
    join (← part)
    spend 1 0
    branch 1
    return true
  | k + 2 => do
    let before ← exactly part (k + 1)
    let last ← part
    spend 1 0
    join before
    join last
    branch 1
    return true

/-- The states of an expression; tells whether the end is a branching state. Groups are marked by
states of their own where the text is read from left to right. -/
def build (backward : Bool) : ByteRegex → Build Bool
  | empty | look => do
    spend 1 0
    return false
  | literal bytes => do
    spend bytes.length 0
    return false
  | basic ranges => do
    spend 2 (8 * ranges)
    return false
  | sequences l => do
    if backward then backwardSet l else forwardSet l
    return false
  | repeated a 0 (some 1) _ => do
    spend 1 0
    let last ← build backward a
    spend 1 0
    branch 2
    join last
    return false
  | repeated a min none consumes => atLeast (build backward a) consumes min
  | repeated a min (some max) _ => do
    let last ← exactly (build backward a) min
    if min = max then return last
    spend 1 0
    join (← atMost (build backward a) (max - min) last)
    return false
  | group a => do
    if backward then build backward a
    else
      spend 1 0
      join (← build backward a)
      spend 1 0
      return false
  | cat parts => if backward then fromLast parts else inTurn parts
  | alt choices => do
    match choices with
    | [] | [_] => return false
    | a :: b :: rest => do
      let first ← build backward a
      let second ← build backward b
      spend 2 0
      branch 2
      join first
      join second
      each rest
      return false
  | words l => do
    wordTree (if backward then l.map List.reverse else l)
    return false
where
  inTurn : List ByteRegex → Build Bool
    | [] => return false
    | [a] => build backward a
    | a :: rest => do
      join (← build backward a)
      inTurn rest
  fromLast : List ByteRegex → Build Bool
    | [] => return false
    | [a] => build backward a
    | a :: rest => do
      join (← fromLast rest)
      build backward a
  each : List ByteRegex → Build Unit
    | [] => return ()
    | a :: rest => do
      let last ← build backward a
      branch 1
      join last
      each rest

/-- The states of a whole automaton. Unless it is anchored it starts with a loop over any byte. -/
def automaton (backward anchored : Bool) (r : ByteRegex) : Build Unit := do
  if anchored then spend 1 0 else spend 3 16
  if backward then join (← r.build backward)
  else
    spend 1 0
    join (← r.build backward)
    spend 1 0
  spend 1 0

/-- From this many words on, a choice between words needs no automaton of this kind. -/
def manyWords : Nat := 3000

end ByteRegex

/-- Whether the automata of an expression keep within the limit. -/
def Regex.fits (r : Regex) : Bool :=
  match r.toBytes with
  | .words l => ByteRegex.manyWords ≤ l.length || keepsWithin (.words l)
  | b => keepsWithin b
where
  keepsWithin (b : ByteRegex) : Bool :=
    ((b.automaton false r.isAnchoredAtStart).run ⟨0, 0⟩).isSome
      && ((b.automaton true r.isAnchoredAtEnd).run ⟨0, 0⟩).isSome

end RelGraph.Pattern
