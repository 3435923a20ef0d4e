import RelGraph.Pattern.Written
import RelGraph.Text.Blank
import RelGraph.Text.Hex
import RelGraph.Unicode.Additions

/-! Reading patterns. `Written.parse?` gives the tree of a pattern text, or nothing when the text is
not a pattern. -/

namespace RelGraph.Pattern.Written

/-- What is left to read, whether blanks and comments are skipped, and the names of the groups so
far. -/
structure Reader where
  rest : List Char
  ignoreSpace : Bool
  names : List String

abbrev Read := StateT Reader Option

def fail {α : Type} : Read α := fun _ => none

def peek : Read (Option Char) := return (← get).rest.head?

def peekSecond : Read (Option Char) := return (← get).rest.tail.head?

/-- Goes on by one character. -/
def bump : Read Unit := modify fun r => { r with rest := r.rest.tail }

/-- The characters after blanks and comments; a comment starts with `#` and ends with its line. -/
def skipSpace : Bool → List Char → List Char
  | _, [] => []
  | true, c :: rest => skipSpace (c != '\n') rest
  | false, c :: rest =>
    if Text.isBlankChar c then skipSpace false rest
    else if c == '#' then skipSpace true rest
    else c :: rest

/-- Skips blanks and comments where the flag `x` is set. -/
def bumpSpace : Read Unit :=
  modify fun r => if r.ignoreSpace then { r with rest := skipSpace false r.rest } else r

def bumpAndSpace : Read Unit := do
  bump
  bumpSpace

/-- The current character, which has to be there. -/
def char : Read Char := do
  match ← peek with
  | some c => return c
  | none => fail

def expect (c : Char) : Read Unit := do
  if (← char) != c then fail
  bump

/-- Goes past the given characters if they follow. -/
def skipIf (text : String) : Read Bool := do
  let r ← get
  if text.toList.isPrefixOf r.rest then
    set { r with rest := r.rest.drop text.length }
    return true
  return false

/-- Reads on while the characters satisfy `p`, skipping blanks between them where that is
allowed. -/
def takeWhile (p : Char → Bool) : Nat → Read (List Char)
  | 0 => return []
  | k + 1 => do
    match ← peek with
    | some c =>
      if p c then
        bumpAndSpace
        return c :: (← takeWhile p k)
      return []
    | none => return []

/-- An upper bound for the number of steps that are left. -/
def remaining : Read Nat := return (← get).rest.length + 1

/-- A decimal number below `2 ^ 32` with blanks around it. -/
def decimal : Read Nat := do
  modify fun r => { r with rest := r.rest.dropWhile Text.isBlankChar }
  let digits ← takeWhile Char.isDigit (← remaining)
  let _ ← takeWhile Text.isBlankChar (← remaining)
  if digits.isEmpty then fail
  let n := digits.foldl (fun n d => 10 * n + (d.toNat - '0'.toNat)) 0
  if n < Nat.pow 2 32 then return n
  fail

/-! ### Escapes -/

def isMeta (c : Char) : Bool := "\\.+*?()|[]\x7b\x7d^$#&-~".toList.contains c

def isEscapable (c : Char) : Bool :=
  isMeta c || (c.toNat < 128 && !c.isAlphanum && c != '<' && c != '>')

/-- The digits after `x`, `u` or `U`, in braces or of fixed number. Two digits after `x` write a
code unit. -/
def hexEscape (count : Nat) : Read Primitive := do
  bumpAndSpace
  if (← char) == '\x7b' then
    bumpAndSpace
    let digits ← takeWhile (· != '\x7d') (← remaining)
    if (← char) != '\x7d' || digits.isEmpty then fail
    bumpAndSpace
    return .literal (← StateT.lift (Text.charOfHex? digits))
  else
    let digits ← takeWhile (fun c => (Text.hexValue? c).isSome) count
    if digits.length != count then fail
    let c ← StateT.lift (Text.charOfHex? digits)
    return if count == 2 then .codeUnit c else .literal c

/-- What stands before and after the first occurrence of a mark. -/
def splitAt? (mark : List Char) (before : List Char) : List Char → Option (String × String)
  | [] => none
  | c :: rest =>
    if mark.isPrefixOf (c :: rest) then
      some (String.ofList before.reverse, String.ofList ((c :: rest).drop mark.length))
    else splitAt? mark (c :: before) rest

/-- A property in braces, or one with a name of one character. The sign `!=` asks for the same
characters as the other two. -/
def propertyEscape (negated : Bool) : Read Primitive := do
  bumpAndSpace
  let c ← char
  if c == '\x7b' then
    bumpAndSpace
    let name ← takeWhile (· != '\x7d') (← remaining)
    expect '\x7d'
    match splitAt? ['!', '='] [] name <|> splitAt? [':'] [] name <|> splitAt? ['='] [] name with
    | some (name, value) => return .property (.valued name value) negated
    | none => return .property (.named (String.ofList name)) negated
  else
    if c == '\\' then fail
    bumpAndSpace
    return .property (.named c.toString) negated

/-- The name of a word boundary in braces after `\b`; anything else is left to be a repetition. -/
def boundaryName : Read (Option Assertion) := do
  let before ← get
  if (← peek) != some '\x7b' then return none
  bumpAndSpace
  let isNameChar := fun c : Char => c.isAlpha || c == '-'
  if !isNameChar (← char) then
    set before
    return none
  let name ← takeWhile isNameChar (← remaining)
  expect '\x7d'
  match String.ofList name with
  | "start" => return some .wordStart
  | "end" => return some .wordEnd
  | "start-half" => return some .wordStartHalf
  | "end-half" => return some .wordEndHalf
  | _ => fail

def escape : Read Primitive := do
  expect '\\'
  let c ← char
  match c with
  | 'x' => hexEscape 2
  | 'u' => hexEscape 4
  | 'U' => hexEscape 8
  | 'p' => propertyEscape false
  | 'P' => propertyEscape true
  | _ =>
    bump
    match c with
    | 'd' => return .perl .digit false
    | 'D' => return .perl .digit true
    | 's' => return .perl .space false
    | 'S' => return .perl .space true
    | 'w' => return .perl .word false
    | 'W' => return .perl .word true
    | 'a' => return .literal '\x07'
    | 'f' => return .literal '\x0c'
    | 't' => return .literal '\t'
    | 'n' => return .literal '\n'
    | 'r' => return .literal '\r'
    | 'v' => return .literal '\x0b'
    | 'A' => return .assertion .textStart
    | 'z' => return .assertion .textEnd
    | 'b' => return .assertion ((← boundaryName).getD .wordBoundary)
    | 'B' => return .assertion .notWordBoundary
    | '<' => return .assertion .wordStart
    | '>' => return .assertion .wordEnd
    | _ => if isEscapable c then return .literal c else fail

/-! ### Classes in brackets -/

def asciiClassNames : List String :=
  ["alnum", "alpha", "ascii", "blank", "cntrl", "digit", "graph", "lower", "print", "punct",
   "space", "upper", "word", "xdigit"]

/-- A class such as `[:alpha:]`. Where none follows, nothing is read. -/
def asciiClass : Read (Option ClassSet) := do
  let before ← get
  let attempt : Read (Option ClassSet) := do
    expect '['
    expect ':'
    let negated := (← peek) == some '^'
    if negated then bump
    let r ← get
    let name := String.ofList (r.rest.takeWhile (· != ':'))
    set { r with rest := r.rest.dropWhile (· != ':') }
    if !(← skipIf ":]") || !asciiClassNames.contains name then return none
    return some (.ascii name negated)
  match attempt before with
  | some (some cls, after) =>
    set after
    return some cls
  | _ => return none

def classItem : Read Primitive := do
  if (← char) == '\\' then escape
  else
    let c ← char
    bump
    return .literal c

def isLiteral : Primitive → Bool
  | .literal _ | .codeUnit _ => true
  | _ => false

/-- Whether a primitive may stand in brackets on its own. -/
def isClassItem : Primitive → Bool
  | .literal _ | .codeUnit _ | .perl _ _ | .property _ _ => true
  | _ => false

def literalCode : Primitive → Nat
  | .literal c | .codeUnit c => c.toNat
  | _ => 0

/-- The first character that is neither blank nor the first `#`. -/
def pastSpace (inComment : Bool) : List Char → Option Char
  | [] => none
  | c :: rest =>
    if Text.isBlankChar c then pastSpace inComment rest
    else if !inComment && c == '#' then pastSpace true rest
    else some c

/-- The character after a dash that tells whether the dash makes a range. Where blanks are skipped,
a comment is taken to go on past its line, and the very next character is the one if nothing else
is left. -/
def afterDash : Read (Option Char) := do
  let r ← get
  let rest := r.rest.tail
  return if r.ignoreSpace then pastSpace false rest <|> rest.head? else rest.head?

/-- A single item or a range of characters. -/
def classRange : Read ClassSet := do
  let first ← classItem
  bumpSpace
  if (← char) != '-' then
    if isClassItem first then return .primitive first else fail
  let next ← afterDash
  if next == some ']' || next == some '-' then
    if isClassItem first then return .primitive first else fail
  bumpAndSpace
  let last ← classItem
  if isLiteral first && isLiteral last && literalCode first ≤ literalCode last then
    return .range first last
  fail

/-- The leading dashes, which stand for themselves. -/
def leadingDashes (items : List ClassSet) : Nat → Read (List ClassSet)
  | 0 => return items
  | k + 1 => do
    if (← char) == '-' then
      bumpAndSpace
      leadingDashes (.primitive (.literal '-') :: items) k
    else return items

/-- The content of a class up to here: the items, the latest of which comes first, and an operation
that waits for them as its right side. -/
def closed (pending : Option (ClassOperator × ClassSet)) (items : List ClassSet) : ClassSet :=
  let content := ClassSet.ofItems items.reverse
  match pending with
  | some (op, left) => .operation op left content
  | none => content

mutual

/-- A class from its opening bracket to its closing one. -/
def bracketedClass : Nat → Read (Bool × ClassSet)
  | 0 => fail
  | k + 1 => do
    expect '['
    bumpSpace
    let negated := (← char) == '^'
    if negated then bumpAndSpace
    let mut items ← leadingDashes [] (← remaining)
    if items.isEmpty && (← char) == ']' then
      bumpAndSpace
      items := [.primitive (.literal ']')]
    return (negated, ← classContent k none items)

/-- The items up to the closing bracket; `items` are those so far with the latest first. All
operations bind alike and group to the left. -/
def classContent : Nat → Option (ClassOperator × ClassSet) → List ClassSet → Read ClassSet
  | 0, _, _ => fail
  | k + 1, pending, items => do
    bumpSpace
    match ← char, ← peekSecond with
    | '[', _ =>
      match ← asciiClass with
      | some cls => classContent k pending (cls :: items)
      | none =>
        let (negated, inner) ← bracketedClass k
        classContent k pending (.bracketed negated inner :: items)
    | ']', _ =>
      bump
      return closed pending items
    | '&', some '&' =>
      let _ ← skipIf "&&"
      classContent k (some (.inter, closed pending items)) []
    | '-', some '-' =>
      let _ ← skipIf "--"
      classContent k (some (.diff, closed pending items)) []
    | '~', some '~' =>
      let _ ← skipIf "~~"
      classContent k (some (.symmDiff, closed pending items)) []
    | _, _ => classContent k pending ((← classRange) :: items)

end

/-! ### Groups, repetitions and alternatives -/

def isNameStart (c : Char) : Bool := c == '_' || Unicode.isAlphabetic c

def isNameChar (c : Char) : Bool :=
  isNameStart c || c == '.' || c == '[' || c == ']' || Unicode.isNumeric c

/-- The name of a group, which no other group has. -/
def groupName : Read Unit := do
  let r ← get
  let name := r.rest.takeWhile (· != '>')
  match name with
  | [] => fail
  | c :: more =>
    if !isNameStart c || !more.all isNameChar || r.names.contains (String.ofList name) then fail
    set { r with
      rest := r.rest.drop name.length
      names := String.ofList name :: r.names }
    expect '>'

/-- Flags up to a colon or a closing parenthesis. -/
def flagChanges (value danglingMinus : Bool) (changes : FlagChanges) : Nat → Read FlagChanges
  | 0 => fail
  | k + 1 => do
    let c ← char
    if c == ':' || c == ')' then
      if danglingMinus then fail else return changes
    bump
    if c == '-' then
      if value then flagChanges false true changes k else fail
    else
      match Flag.ofChar? c with
      | some flag =>
        if changes.any (·.1 == flag) then fail
        flagChanges value false (changes ++ [(flag, value)]) k
      | none => fail

/-- How a group starts: flags for what follows, or a group with flags of its own. -/
inductive GroupStart
  | flags (changes : FlagChanges)
  | group (captured : Bool) (changes : FlagChanges)

def groupStart : Read GroupStart := do
  expect '('
  bumpSpace
  for look in ["?=", "?!", "?<=", "?<!"] do
    if ← skipIf look then fail
  if (← skipIf "?P<") || (← skipIf "?<") then
    groupName
    return .group true []
  if ← skipIf "?" then
    let changes ← flagChanges true false [] (← remaining)
    let close ← char
    bump
    if close == ')' then
      if changes.isEmpty then fail
      return .flags changes
    return .group false changes
  return .group true []

def setIgnoreSpace (changes : FlagChanges) : Read Unit := do
  match changes.find? (·.1 == .ignoreSpace) with
  | some (_, value) => modify fun r => { r with ignoreSpace := value }
  | none => return ()

/-- The bounds of a counted repetition, from its opening brace to its closing one. -/
def bounds : Read (Nat × Option Nat) := do
  expect '\x7b'
  bumpSpace
  let min ← decimal
  if (← char) == ',' then
    bumpAndSpace
    if (← char) == '\x7d' then return (min, none)
    let max ← decimal
    if min > max || (← char) != '\x7d' then fail
    return (min, some max)
  if (← char) != '\x7d' then fail
  return (min, some min)

/-- Puts a repetition around the last part. -/
def repeatLast (parts : List Written) (min : Nat) (max : Option Nat) : Read (List Written) := do
  match parts with
  | [] => fail
  | last :: before =>
    if !isRepeatable last then fail
    let lazy := (← peek) == some '?'
    if lazy then bump
    return repeated last min max lazy :: before

/-- Reads up to a closing parenthesis or the end. `parts` are those of the current alternative and
`alternatives` the finished ones, both with the latest first. -/
def sequence (alternatives parts : List Written) : Nat → Read Written
  | 0 => fail
  | k + 1 => do
    bumpSpace
    match ← peek with
    | none | some ')' => return ofAlternatives (ofParts parts.reverse :: alternatives).reverse
    | some '|' =>
      bump
      sequence (ofParts parts.reverse :: alternatives) [] k
    | some '(' =>
      match ← groupStart with
      | .flags changes =>
        setIgnoreSpace changes
        sequence alternatives (flags changes :: parts) k
      | .group captured changes =>
        let outer := (← get).ignoreSpace
        setIgnoreSpace changes
        let inner ← sequence [] [] k
        expect ')'
        modify fun r => { r with ignoreSpace := outer }
        sequence alternatives (group captured changes inner :: parts) k
    | some '[' =>
      let (negated, content) ← bracketedClass (2 * (← remaining))
      sequence alternatives (bracketed negated content :: parts) k
    | some '?' =>
      bump
      sequence alternatives (← repeatLast parts 0 (some 1)) k
    | some '*' =>
      bump
      sequence alternatives (← repeatLast parts 0 none) k
    | some '+' =>
      bump
      sequence alternatives (← repeatLast parts 1 none) k
    | some '\x7b' =>
      if parts.isEmpty then fail
      let (min, max) ← bounds
      bumpAndSpace
      sequence alternatives (← repeatLast parts min max) k
    | some '\\' => sequence alternatives (primitive (← escape) :: parts) k
    | some '.' =>
      bump
      sequence alternatives (primitive .dot :: parts) k
    | some '^' =>
      bump
      sequence alternatives (primitive .caret :: parts) k
    | some '$' =>
      bump
      sequence alternatives (primitive .dollar :: parts) k
    | some c =>
      bump
      sequence alternatives (primitive (.literal c) :: parts) k

/-- Patterns may not be nested deeper than this. -/
def depthLimit : Nat := 250

/-- The pattern that the text writes down. -/
def parse? (text : String) : Option Written := do
  let (pattern, after) ← sequence [] [] (2 * text.length + 2) ⟨text.toList, false, []⟩
  if after.rest.isEmpty && pattern.depth ≤ depthLimit then some pattern else none

end RelGraph.Pattern.Written
