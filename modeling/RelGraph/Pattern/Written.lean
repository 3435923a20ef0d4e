import RelGraph.Pattern.Assertion

/-! The syntax of patterns: a tree that still shows flags, groups and repetitions as they are
written. There is no look-around and no reference to a group. -/

namespace RelGraph.Pattern

/-- The flags of a pattern, by their letters `i`, `m`, `s`, `U`, `u`, `x` and `R`. -/
inductive Flag
  | caseInsensitive | multiLine | dotMatchesNewline | swapGreed | unicode | ignoreSpace | crlf
  deriving DecidableEq, Repr

def Flag.ofChar? : Char → Option Flag
  | 'i' => some .caseInsensitive
  | 'm' => some .multiLine
  | 's' => some .dotMatchesNewline
  | 'U' => some .swapGreed
  | 'u' => some .unicode
  | 'x' => some .ignoreSpace
  | 'R' => some .crlf
  | _ => none

/-- Flags that are set or cleared, each once. -/
abbrev FlagChanges := List (Flag × Bool)

inductive PerlClass
  | digit | space | word
  deriving DecidableEq, Repr

/-- How a property of characters is asked for. -/
inductive PropertyQuery
  | named (name : String)
  | valued (name value : String)
  deriving DecidableEq, Repr

/-- One thing that an escape or a plain character stands for. -/
inductive Primitive
  | literal (c : Char)
  /-- A code unit that was written with two hexadecimal digits after `x`. -/
  | codeUnit (c : Char)
  | dot
  | assertion (a : Assertion)
  | caret
  | dollar
  | perl (cls : PerlClass) (negated : Bool)
  | property (query : PropertyQuery) (negated : Bool)
  deriving DecidableEq, Repr

inductive ClassOperator
  | inter | diff | symmDiff
  deriving DecidableEq, Repr

/-- What stands in brackets. -/
inductive ClassSet
  | primitive (p : Primitive)
  | range (first last : Primitive)
  | ascii (name : String) (negated : Bool)
  | union (items : List ClassSet)
  | operation (op : ClassOperator) (a b : ClassSet)
  | bracketed (negated : Bool) (content : ClassSet)
  deriving Repr

/-- A pattern as it is written. -/
inductive Written
  | empty
  | flags (changes : FlagChanges)
  | primitive (p : Primitive)
  | bracketed (negated : Bool) (content : ClassSet)
  | repeated (a : Written) (min : Nat) (max : Option Nat) (lazy : Bool)
  | group (captured : Bool) (changes : FlagChanges) (a : Written)
  | cat (parts : List Written)
  | alt (parts : List Written)
  deriving Repr

/-- Items in brackets; one item stands for itself. -/
def ClassSet.ofItems : List ClassSet → ClassSet
  | [a] => a
  | items => .union items

/-- How deep the sets of a class are nested. A union counts when it has several items. -/
def ClassSet.depth : ClassSet → Nat
  | .union [] => 0
  | .union items => deepest items + 1
  | .operation _ a b => max (depth a) (depth b) + 1
  | .bracketed _ content => depth content + 1
  | _ => 0
where
  deepest : List ClassSet → Nat
    | [] => 0
    | a :: rest => max (depth a) (deepest rest)

namespace Written

/-- The parts one after the other. -/
def ofParts : List Written → Written
  | [] => empty
  | [a] => a
  | parts => cat parts

def ofAlternatives : List Written → Written
  | [] => empty
  | [a] => a
  | parts => alt parts

/-- Whether something can be repeated. -/
def isRepeatable : Written → Bool
  | empty | flags _ => false
  | _ => true

/-- How deep classes, groups, repetitions and choices are nested. -/
def depth : Written → Nat
  | bracketed _ content => content.depth + 1
  | repeated a _ _ _ => depth a + 1
  | group _ _ a => depth a + 1
  | cat parts => deepest parts + 1
  | alt parts => deepest parts + 1
  | _ => 0
where
  deepest : List Written → Nat
    | [] => 0
    | a :: rest => max (depth a) (deepest rest)

end Written

end RelGraph.Pattern
