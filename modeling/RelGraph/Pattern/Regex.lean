import RelGraph.Pattern.Assertion
import RelGraph.Unicode.Property

/-! Regular expressions with assertions, and how they match. Expressions are built in a simple form:
literals that follow each other are one literal, what cannot match anything else than the empty text
is repeated at most once, and alternatives share what they start with.

The meaning of an expression on a text is a map between sets of positions: from where it may start
to where it may end. A set of positions is a number whose bits tell which positions belong to it, so
a class moves a set by one shift, and an assertion is an intersection. -/

namespace RelGraph.Pattern

open Unicode (CodeSet)

/-- A regular expression. -/
inductive Regex
  | empty
  | literal (chars : List Char)
  /-- One character of a set. Sets over code units and sets over characters are told apart. -/
  | set (codeUnits : Bool) (members : CodeSet)
  | look (ascii : Bool) (a : Assertion)
  /-- At least `min` and, if there is one, at most `max` times. -/
  | repeated (a : Regex) (min : Nat) (max : Option Nat) (lazy : Bool)
  | group (a : Regex)
  | cat (parts : List Regex)
  | alt (choices : List Regex)
  deriving Repr

namespace Regex

/-! ### Simple forms -/

/-- The expression that matches nothing. -/
def fail : Regex := set true []

/-- One character of a set; a set with one member is a literal. -/
def ofSet (codeUnits : Bool) (members : CodeSet) : Regex :=
  match members.single? with
  | some code => literal [Char.ofNat code]
  | none => if members.isEmpty then fail else set codeUnits members

/-- Whether the expression can match and then matches the empty text alone. -/
def matchesOnlyEmpty : Regex → Bool
  | empty => true
  | look _ _ => true
  | repeated a _ max _ => max.isSome && matchesOnlyEmpty a
  | group a => matchesOnlyEmpty a
  | cat parts => every parts
  | alt choices => every choices
  | literal _ | set _ _ => false
where
  every : List Regex → Bool
    | [] => true
    | a :: rest => matchesOnlyEmpty a && every rest

/-- A repetition. To repeat the empty text makes no difference. -/
def times (a : Regex) (min : Nat) (max : Option Nat) (lazy : Bool) : Regex :=
  let once := matchesOnlyEmpty a
  let min := if once then Nat.min min 1 else min
  let max := if once then some ((max.map (Nat.min · 1)).getD 1) else max
  if max == some 0 then empty
  else if min == 1 && max == some 1 then a
  else repeated a min max lazy

/-- What an expression consists of, one after the other. -/
def parts : Regex → List Regex
  | empty => []
  | cat parts => parts
  | a => [a]

/-- Joins literals that follow each other. -/
def joinLiterals (parts : List Regex) : List Regex :=
  parts.foldr (fun a rest =>
    match a, rest with
    | literal s, literal t :: rest => literal (s ++ t) :: rest
    | a, rest => a :: rest) []

/-- Expressions one after the other. -/
def concat (l : List Regex) : Regex :=
  match joinLiterals (l.flatMap parts) with
  | [] => empty
  | [a] => a
  | parts => cat parts

/-- Whether two expressions are written alike. A captured group is like no other. -/
def same : Regex → Regex → Bool
  | empty, empty => true
  | literal s, literal t => s == t
  | set u s, set v t => u == v && s == t
  | look u a, look v b => u == v && a == b
  | repeated a m n l, repeated b m' n' l' => same a b && m == m' && n == n' && l == l'
  | cat as, cat bs => sameAll as bs
  | alt as, alt bs => sameAll as bs
  | _, _ => false
where
  sameAll : List Regex → List Regex → Bool
    | [], [] => true
    | a :: as, b :: bs => same a b && sameAll as bs
    | _, _ => false

/-- The choices of an expression. -/
def choices : Regex → List Regex
  | alt choices => choices
  | a => [a]

/-- The characters of literals that have one each. -/
def singleChars? (l : List Regex) : Option CodeSet :=
  (l.mapM fun
    | literal [c] => some (Unicode.Stretch.single c.toNat)
    | _ => none).map .ofStretches

/-- The members of several sets together. -/
def allMembers? (l : List Regex) : Option CodeSet :=
  (l.mapM fun
    | set _ members => some members
    | _ => none).map fun (sets : List CodeSet) => .ofStretches sets.flatten

/-- The parts with which two lists of parts start alike. -/
def commonPrefix : List Regex → List Regex → List Regex
  | a :: as, b :: bs => if same a b then a :: commonPrefix as bs else []
  | _, _ => []

/-- The parts that several expressions start with. Those that are not made up of parts have none in
common with others. -/
def sharedStart : List Regex → List Regex
  | cat first :: rest =>
    rest.foldl (fun shared a =>
      match a with
      | cat parts => commonPrefix shared parts
      | _ => []) first
  | _ => []

/-- How much is written in an expression. -/
def size : Regex → Nat
  | repeated a _ _ _ => size a + 1
  | group a => size a + 1
  | cat parts => total parts + 1
  | alt choices => total choices + 1
  | _ => 1
where
  total : List Regex → Nat
    | [] => 0
    | a :: rest => size a + total rest

/-- A choice between expressions. What all of them start with is written once; then less is left for
the choice between the rests, at most `fuel` times. -/
def choiceWithin : Nat → List Regex → Regex
  | 0, l => alt l
  | fuel + 1, l =>
    match l.flatMap choices with
    | [] => fail
    | [a] => a
    | l =>
      match singleChars? l <|> allMembers? l with
      | some members => ofSet false members
      | none =>
        match sharedStart l with
        | [] => alt l
        | shared =>
          let rests := l.map fun a => concat (a.parts.drop shared.length)
          concat (shared ++ [choiceWithin fuel rests])

def choice (l : List Regex) : Regex := choiceWithin (size.total l + 1) l

/-! ### Matching -/

/-- The characters of words: any, or only basic ones. -/
def isWordChar (ascii : Bool) (c : Char) : Bool :=
  if ascii then c.isAlphanum || c == '_' else Unicode.wordSet.contains c.toNat

/-- The number whose bit `i` is set when the `i`-th entry is true. -/
def bits : List Bool → Nat
  | [] => 0
  | b :: rest => 2 * bits rest + b.toNat

/-- For each position of the text the characters before and after it. -/
def neighbours (before : Option Char) : List Char → List (Option Char × Option Char)
  | [] => [(before, none)]
  | c :: rest => (before, some c) :: neighbours (some c) rest

/-- Applies `f` the given number of times, or until that changes nothing. -/
def iterate (f : Nat → Nat) : Nat → Nat → Nat
  | 0, s => s
  | k + 1, s =>
    let t := f s
    if t = s then s else iterate f k t

/-- Where a character that satisfies `p` may end when it starts at one of the given positions. -/
def step (text : List Char) (p : Char → Bool) (s : Nat) : Nat := 2 * (s &&& bits (text.map p))

/-- The positions where the expression may end when it starts at one of the given positions. -/
def ends (text : List Char) : Regex → Nat → Nat
  | empty, s => s
  | literal chars, s => chars.foldl (fun s c => if s = 0 then 0 else step text (· == c) s) s
  | set _ members, s => step text (fun c => members.contains c.toNat) s
  | look ascii a, s =>
    s &&& bits ((neighbours none text).map fun n => a.holds (isWordChar ascii) n.1 n.2)
  | repeated a min max _, s =>
    let more := match max with
      | none => text.length + 1
      | some max => max - min
    iterate (fun t => t ||| ends text a t) more (iterate (ends text a) min s)
  | group a, s => ends text a s
  | cat parts, s => inTurn text parts s
  | alt choices, s => either text choices s
where
  inTurn (text : List Char) : List Regex → Nat → Nat
    | [], s => s
    | a :: rest, s => inTurn text rest (ends text a s)
  either (text : List Char) : List Regex → Nat → Nat
    | [], _ => 0
    | a :: rest, s => ends text a s ||| either text rest s

/-- Some part of the text is matched by the expression. -/
def matchesIn (r : Regex) (text : String) : Bool :=
  let chars := text.toList
  r.ends chars (bits (List.replicate (chars.length + 1) true)) != 0

end Regex

end RelGraph.Pattern
