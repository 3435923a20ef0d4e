import RelGraph.Pattern.Query
import RelGraph.Pattern.Regex
import RelGraph.Unicode.CaseFolding

/-! What a written pattern means. Flags that are set in the middle of a group hold up to its end.
A pattern must not be able to match a part of a character, so where the flag `u` is cleared nothing
may stand that matches a single byte beyond the basic characters. -/

namespace RelGraph.Pattern

open Unicode (CodeSet)

/-- The flags in force. -/
structure Flags where
  caseInsensitive : Bool := false
  multiLine : Bool := false
  dotMatchesNewline : Bool := false
  swapGreed : Bool := false
  unicode : Bool := true
  crlf : Bool := false

def Flags.change (f : Flags) (c : Flag × Bool) : Flags :=
  match c.1 with
  | .caseInsensitive => { f with caseInsensitive := c.2 }
  | .multiLine => { f with multiLine := c.2 }
  | .dotMatchesNewline => { f with dotMatchesNewline := c.2 }
  | .swapGreed => { f with swapGreed := c.2 }
  | .unicode => { f with unicode := c.2 }
  | .crlf => { f with crlf := c.2 }
  | .ignoreSpace => f

def Flags.apply (f : Flags) (changes : FlagChanges) : Flags := changes.foldl Flags.change f

/-- The set with all forms of its members, where case makes no difference. -/
def Flags.fold (f : Flags) (s : CodeSet) : CodeSet :=
  if !f.caseInsensitive then s
  else if f.unicode then s.closeUnderCase
  else s.closeUnderAsciiCase

/-- The set or, if that is asked for, what is not in it. Without the flag `u` the complement has
bytes that are not characters and is refused. -/
def Flags.negated? (f : Flags) (negated : Bool) (s : CodeSet) : Option CodeSet :=
  if !negated then some s
  else if f.unicode then some s.compl
  else none

/-! ### Classes -/

/-- The basic characters that a class such as `[:alpha:]` names. -/
def asciiRanges : String → List (Char × Char)
  | "alnum" => [('0', '9'), ('A', 'Z'), ('a', 'z')]
  | "alpha" => [('A', 'Z'), ('a', 'z')]
  | "ascii" => [('\x00', '\x7f')]
  | "blank" => [('\t', '\t'), (' ', ' ')]
  | "cntrl" => [('\x00', '\x1f'), ('\x7f', '\x7f')]
  | "digit" => [('0', '9')]
  | "graph" => [('!', '~')]
  | "lower" => [('a', 'z')]
  | "print" => [(' ', '~')]
  | "punct" => [('!', '/'), (':', '@'), ('[', '\x60'), ('\x7b', '~')]
  | "space" => [('\t', '\r'), (' ', ' ')]
  | "upper" => [('A', 'Z')]
  | "word" => [('0', '9'), ('A', 'Z'), ('_', '_'), ('a', 'z')]
  | "xdigit" => [('0', '9'), ('A', 'F'), ('a', 'f')]
  | _ => []

def asciiSet (name : String) : CodeSet :=
  .ofStretches ((asciiRanges name).map fun r => ⟨r.1.toNat, r.2.toNat⟩)

/-- The set of a shorthand such as `\d`, in which case makes no difference anyway. Without the flag
`u` it names basic characters. -/
def perlSet (f : Flags) : PerlClass → CodeSet
  | .digit => if f.unicode then Unicode.categorySet "nd" else asciiSet "digit"
  | .space => if f.unicode then Unicode.Base.whiteSpace else asciiSet "space"
  | .word => if f.unicode then Unicode.wordSet else asciiSet "word"

def propertySet? (f : Flags) (query : PropertyQuery) (negated : Bool) : Option CodeSet := do
  if !f.unicode then none
  f.negated? negated (f.fold (← query.members?))

/-- The character of a literal. Without the flag `u` a code unit has to be a basic character. -/
def literal? (f : Flags) : Primitive → Option Char
  | .literal c => some c
  | .codeUnit c => if f.unicode || c.toNat < 128 then some c else none
  | _ => none

/-- In brackets, basic characters only may stand without the flag `u`. -/
def classLiteral? (f : Flags) (p : Primitive) : Option Nat := do
  let c ← literal? f p
  if f.unicode || c.toNat < 128 then some c.toNat else none

def classSet? (f : Flags) : ClassSet → Option CodeSet
  | .primitive (.perl cls negated) => f.negated? negated (perlSet f cls)
  | .primitive (.property query negated) => propertySet? f query negated
  | .primitive p => (classLiteral? f p).map .single
  | .range first last => do return [⟨← classLiteral? f first, ← classLiteral? f last⟩]
  | .ascii name negated => f.negated? negated (f.fold (asciiSet name))
  | .union items => (each items).map fun sets => .ofStretches sets.flatten
  | .operation op a b => do
    let a := f.fold (← classSet? f a)
    let b := f.fold (← classSet? f b)
    return match op with
      | .inter => a.inter b
      | .diff => a.diff b
      | .symmDiff => a.symmDiff b
  | .bracketed negated content => do f.negated? negated (f.fold (← classSet? f content))
where
  each : List ClassSet → Option (List CodeSet)
    | [] => some []
    | a :: rest => do return (← classSet? f a) :: (← each rest)

/-! ### Expressions -/

/-- What a dot stands for. -/
def dotSet (f : Flags) : CodeSet :=
  if f.dotMatchesNewline then .full
  else if f.crlf then CodeSet.compl [⟨10, 10⟩, ⟨13, 13⟩]
  else CodeSet.compl [⟨10, 10⟩]

/-- Whether an assertion asks what a word is. -/
def Assertion.asksForWords : Assertion → Bool
  | wordBoundary | notWordBoundary | wordStart | wordEnd | wordStartHalf | wordEndHalf => true
  | _ => false

/-- The expression of a character; where case makes no difference, of all its forms. -/
def charRegex (f : Flags) (c : Char) : Regex :=
  let forms := f.fold (.single c.toNat)
  if forms.single?.isSome then .literal [c] else .ofSet (!f.unicode) forms

def primitive? (f : Flags) : Primitive → Option Regex
  | .dot => if f.unicode then some (.ofSet false (dotSet f)) else none
  | .assertion a => some (.look (!f.unicode && a.asksForWords) a)
  | .caret =>
    some (.look false (if !f.multiLine then .textStart
      else if f.crlf then .lineStartCrlf else .lineStart))
  | .dollar =>
    some (.look false (if !f.multiLine then .textEnd
      else if f.crlf then .lineEndCrlf else .lineEnd))
  | .perl cls negated => (f.negated? negated (perlSet f cls)).map (.ofSet (!f.unicode))
  | .property query negated => (propertySet? f query negated).map (.ofSet false)
  | p => (literal? f p).map (charRegex f)

/-- The expression of a pattern, and the flags that hold after it. -/
def regex? (f : Flags) : Written → Option (Regex × Flags)
  | .empty => some (.empty, f)
  | .flags changes => some (.empty, f.apply changes)
  | .primitive p => (primitive? f p).map (·, f)
  | .bracketed negated content =>
    (classSet? f (.bracketed negated content)).map fun s => (.ofSet (!f.unicode) s, f)
  | .repeated a min max lazy => do
    let (r, f) ← regex? f a
    return (r.times min max (lazy != f.swapGreed), f)
  | .group captured changes a => do
    let (r, _) ← regex? (f.apply changes) a
    return (if captured then .group r else r, f)
  | .cat parts => do
    let (l, f) ← inTurn f parts
    return (.concat l, f)
  | .alt parts => do
    let (l, f) ← inTurn f parts
    return (.choice l, f)
where
  inTurn (f : Flags) : List Written → Option (List Regex × Flags)
    | [] => some ([], f)
    | a :: rest => do
      let (r, f) ← regex? f a
      let (l, f) ← inTurn f rest
      return (r :: l, f)

end RelGraph.Pattern
