import RelGraph.Pattern.Regex
import RelGraph.Pattern.Utf8

/-! Regular expressions over bytes: what an automaton is built from. -/

namespace RelGraph.Pattern

/-- A regular expression over bytes. -/
inductive ByteRegex
  | empty
  | literal (bytes : List Nat)
  /-- One of so many ranges of basic characters. -/
  | basic (ranges : Nat)
  /-- One of several sequences of byte ranges. -/
  | sequences (l : List ByteSequence)
  | look
  /-- A repetition. Whether it `consumes` tells that what is repeated takes at least one byte. -/
  | repeated (a : ByteRegex) (min : Nat) (max : Option Nat) (consumes : Bool)
  | group (a : ByteRegex)
  | cat (parts : List ByteRegex)
  | alt (choices : List ByteRegex)
  /-- A choice between literals. -/
  | words (l : List (List Nat))
  deriving Repr

namespace Regex

/-- The bytes that every match has at least; nothing for an expression that has no match. -/
def leastLength? : Regex → Option Nat
  | empty => some 0
  | literal chars => some (chars.length)
  | set _ members => if members.isEmpty then none else some 1
  | look _ _ => some 0
  | repeated a min _ _ => (leastLength? a).map (· * min)
  | group a => leastLength? a
  | cat parts => total parts
  | alt choices => least choices
where
  total : List Regex → Option Nat
    | [] => some 0
    | a :: rest => do return (← leastLength? a) + (← total rest)
  least : List Regex → Option Nat
    | [] => none
    | [a] => leastLength? a
    | a :: rest => do return min (← leastLength? a) (← least rest)

/-- Whether a match takes at least one character. An expression that may fail in one of its choices
is not taken to do so. -/
def consumes (r : Regex) : Bool := r.leastLength?.any (0 < ·)

/-- The bytes of a literal. -/
def bytes? : Regex → Option (List Nat)
  | literal chars => some (chars.flatMap fun c => utf8Bytes c.toNat)
  | _ => none

/-- The expression over the bytes of the text. -/
def toBytes : Regex → ByteRegex
  | empty => .empty
  | literal chars => .literal (chars.flatMap fun c => utf8Bytes c.toNat)
  | set _ members =>
    if members.isAscii then .basic members.length else .sequences (members.flatMap byteSequences)
  | look _ _ => .look
  | repeated a min max _ => .repeated (toBytes a) min max a.consumes
  | group a => .group (toBytes a)
  | cat parts => .cat (each parts)
  | alt choices =>
    match choices.mapM bytes? with
    | some words => .words words
    | none => .alt (each choices)
where
  each : List Regex → List ByteRegex
    | [] => []
    | a :: rest => toBytes a :: each rest

/-- Whether every match starts at the start of the text. -/
def isAnchoredAtStart : Regex → Bool
  | look _ a => a == .textStart
  | repeated a min _ _ => 0 < min && isAnchoredAtStart a
  | group a => isAnchoredAtStart a
  | cat parts => leading parts
  | alt choices => every choices
  | _ => false
where
  leading : List Regex → Bool
    | [] => false
    | a :: rest => isAnchoredAtStart a || (a.matchesOnlyEmpty && leading rest)
  every : List Regex → Bool
    | [] => true
    | a :: rest => isAnchoredAtStart a && every rest

/-- Whether every match ends at the end of the text. -/
def isAnchoredAtEnd : Regex → Bool
  | look _ a => a == .textEnd
  | repeated a min _ _ => 0 < min && isAnchoredAtEnd a
  | group a => isAnchoredAtEnd a
  | cat parts => trailing parts
  | alt choices => every choices
  | _ => false
where
  /-- Whether one of the last parts is anchored and all after it match the empty text only. -/
  trailing : List Regex → Bool
    | [] => false
    | a :: rest => trailing rest || (isAnchoredAtEnd a && rest.all matchesOnlyEmpty)
  every : List Regex → Bool
    | [] => true
    | a :: rest => isAnchoredAtEnd a && every rest

end Regex

end RelGraph.Pattern
