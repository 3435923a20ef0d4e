import RelGraph.Text.Hex

/-! The text of TOML: blanks, ends of lines, comments, keys and strings. Control characters other
than the tab stand nowhere in a text. A reader takes what it reads from the front and gives what
follows it. -/

namespace RelGraph.Toml

/-! ### Blanks and lines -/

def isBlank (c : Char) : Bool := c == ' ' || c == '\t'

def skipBlanks (cs : List Char) : List Char := cs.dropWhile isBlank

/-- A character that may stand in a text. -/
def isTextChar (c : Char) : Bool := c == '\t' || (32 ≤ c.toNat && c.toNat != 127)

/-- Skips blanks, ends of lines and comments. -/
def skipFiller (inComment : Bool) : List Char → List Char
  | [] => []
  | '\n' :: rest => skipFiller false rest
  | '\r' :: '\n' :: rest => skipFiller false rest
  | c :: rest =>
    if inComment then if isTextChar c then skipFiller true rest else c :: rest
    else if isBlank c then skipFiller false rest
    else if c == '#' then skipFiller true rest
    else c :: rest

/-- What follows the end of a line; blanks and a comment may stand before it. -/
def endLine? (cs : List Char) : Option (List Char) :=
  let cs := match skipBlanks cs with
    | '#' :: rest => rest.dropWhile isTextChar
    | rest => rest
  match cs with
  | [] => some []
  | '\n' :: rest => some rest
  | '\r' :: '\n' :: rest => some rest
  | _ => none

/-! ### Strings on one line -/

/-- The character that a letter stands for after a backslash. -/
def unescape? : Char → Option Char
  | 'b' => some '\x08'
  | 't' => some '\t'
  | 'n' => some '\n'
  | 'f' => some '\x0c'
  | 'r' => some '\r'
  | '"' => some '"'
  | '\\' => some '\\'
  | _ => none

/-- An escape after its backslash. -/
def escape? : List Char → Option (Char × List Char)
  | 'u' :: a :: b :: c :: d :: rest => do return (← Text.charOfHex? [a, b, c, d], rest)
  | 'U' :: a :: b :: c :: d :: e :: f :: g :: h :: rest => do
    return (← Text.charOfHex? [a, b, c, d, e, f, g, h], rest)
  | c :: rest => do return (← unescape? c, rest)
  | [] => none

theorem length_of_escape? {cs rest : List Char} {c : Char} (h : escape? cs = some (c, rest)) :
    rest.length < cs.length := by
  unfold escape? at h
  split at h <;> simp only [Option.bind_eq_bind, Option.bind_eq_some_iff, Option.pure_def,
    Option.some.injEq, Prod.mk.injEq, reduceCtorEq] at h
  all_goals
    obtain ⟨_, _, _, rfl⟩ := h
    simp only [List.length_cons]
    omega

/-- A string with escapes up to its closing quote. -/
def basic? (cs : List Char) : Option (List Char × List Char) :=
  match cs with
  | [] => none
  | '"' :: rest => some ([], rest)
  | '\\' :: rest =>
    match h : escape? rest with
    | none => none
    | some (c, after) => do
      have := length_of_escape? h
      let (more, rest) ← basic? after
      return (c :: more, rest)
  | c :: rest =>
    if isTextChar c then do
      let (more, rest) ← basic? rest
      return (c :: more, rest)
    else none
termination_by cs.length

/-- A string without escapes up to its closing quote. -/
def literal? : List Char → Option (List Char × List Char)
  | [] => none
  | '\'' :: rest => some ([], rest)
  | c :: rest =>
    if isTextChar c then do
      let (more, rest) ← literal? rest
      return (c :: more, rest)
    else none

/-! ### Strings on several lines -/

/-- Up to two quotes that stand directly before the closing ones belong to the string. -/
def lastQuotes (quote : Char) : List Char → List Char × List Char
  | c :: d :: rest =>
    if c == quote then if d == quote then ([c, d], rest) else ([c], d :: rest)
    else ([], c :: d :: rest)
  | [c] => if c == quote then ([c], []) else ([], [c])
  | [] => ([], [])

/-- Skips blanks and ends of lines. -/
def skipLines : List Char → List Char
  | '\n' :: rest => skipLines rest
  | '\r' :: '\n' :: rest => skipLines rest
  | ' ' :: rest => skipLines rest
  | '\t' :: rest => skipLines rest
  | cs => cs

theorem length_skipLines_le (cs : List Char) : (skipLines cs).length ≤ cs.length := by
  fun_induction skipLines cs <;> grind

/-- After a backslash at the end of a line, the rest of the line and all blanks and empty lines
after it are left out. -/
def foldedLine? (cs : List Char) : Option (List Char) :=
  match skipBlanks cs with
  | '\n' :: rest => some (skipLines rest)
  | '\r' :: '\n' :: rest => some (skipLines rest)
  | _ => none

theorem length_skipBlanks_le (cs : List Char) : (skipBlanks cs).length ≤ cs.length :=
  (List.dropWhile_sublist isBlank).length_le

theorem length_of_foldedLine? {cs rest : List Char} (h : foldedLine? cs = some rest) :
    rest.length ≤ cs.length := by
  have hle := length_skipBlanks_le cs
  unfold foldedLine? at h
  split at h
  · rename_i tail heq
    cases h
    have := length_skipLines_le tail
    rw [heq, List.length_cons] at hle
    omega
  · rename_i tail heq
    cases h
    have := length_skipLines_le tail
    rw [heq, List.length_cons, List.length_cons] at hle
    omega
  · simp at h

/-- A string with escapes up to its three closing quotes. -/
def longBasic? (cs : List Char) : Option (List Char × List Char) :=
  match cs with
  | [] => none
  | '"' :: '"' :: '"' :: rest => some (lastQuotes '"' rest)
  | '\\' :: rest =>
    match hf : foldedLine? rest with
    | some after => have := length_of_foldedLine? hf; longBasic? after
    | none =>
      match h : escape? rest with
      | none => none
      | some (c, after) => do
        have := length_of_escape? h
        let (more, rest) ← longBasic? after
        return (c :: more, rest)
  | '\n' :: rest => do
    let (more, rest) ← longBasic? rest
    return ('\n' :: more, rest)
  | '\r' :: '\n' :: rest => do
    let (more, rest) ← longBasic? rest
    return ('\n' :: more, rest)
  | c :: rest =>
    if isTextChar c then do
      let (more, rest) ← longBasic? rest
      return (c :: more, rest)
    else none
termination_by cs.length

/-- A string without escapes up to its three closing quotes. -/
def longLiteral? : List Char → Option (List Char × List Char)
  | [] => none
  | '\'' :: '\'' :: '\'' :: rest => some (lastQuotes '\'' rest)
  | '\n' :: rest => do
    let (more, rest) ← longLiteral? rest
    return ('\n' :: more, rest)
  | '\r' :: '\n' :: rest => do
    let (more, rest) ← longLiteral? rest
    return ('\n' :: more, rest)
  | c :: rest =>
    if isTextChar c then do
      let (more, rest) ← longLiteral? rest
      return (c :: more, rest)
    else none

/-- The end of a line directly after the opening quotes is not part of a string. -/
def dropFirstLine : List Char → List Char
  | '\n' :: rest => rest
  | '\r' :: '\n' :: rest => rest
  | cs => cs

/-- A string of any form, from its opening quotes on. -/
def string? : List Char → Option (String × List Char)
  | '"' :: '"' :: '"' :: rest => do
    let (s, rest) ← longBasic? (dropFirstLine rest)
    return (String.ofList s, rest)
  | '\'' :: '\'' :: '\'' :: rest => do
    let (s, rest) ← longLiteral? (dropFirstLine rest)
    return (String.ofList s, rest)
  | '"' :: rest => do
    let (s, rest) ← basic? rest
    return (String.ofList s, rest)
  | '\'' :: rest => do
    let (s, rest) ← literal? rest
    return (String.ofList s, rest)
  | _ => none

/-! ### Keys -/

/-- A character of a key that is not quoted. -/
def isKeyChar (c : Char) : Bool := c.isAlphanum || c == '-' || c == '_'

/-- One part of a key. -/
def keyPart? : List Char → Option (String × List Char)
  | '"' :: rest => do
    let (s, rest) ← basic? rest
    return (String.ofList s, rest)
  | '\'' :: rest => do
    let (s, rest) ← literal? rest
    return (String.ofList s, rest)
  | cs =>
    let name := cs.takeWhile isKeyChar
    if name.isEmpty then none else some (String.ofList name, cs.dropWhile isKeyChar)

/-- The parts of a key with points between them, at most `room` of them. -/
def keyParts? : Nat → List Char → Option (List String × List Char)
  | 0, _ => none
  | room + 1, cs => do
    let (part, rest) ← keyPart? (skipBlanks cs)
    match skipBlanks rest with
    | '.' :: rest =>
      let (more, rest) ← keyParts? room rest
      return (part :: more, rest)
    | rest => return ([part], rest)

/-- How many parts a key may have, and how deep values may be nested. -/
def depthLimit : Nat := 79

/-- A key: the parts before its last one, its last part, and what follows it. -/
def key? (cs : List Char) : Option (List String × String × List Char) := do
  let (parts, rest) ← keyParts? depthLimit cs
  match parts.reverse with
  | [] => none
  | last :: before => return (before.reverse, last, rest)

end RelGraph.Toml
