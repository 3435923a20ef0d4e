import RelGraph.Datum
import RelGraph.Text.Hex

/-! Reading JSON texts. The syntax is checked everywhere, and a text that keeps it is read into a
datum. Some well-formed parts stand for no value: numbers beyond all floating-point numbers, strings
with half of a surrogate pair, and everything that is nested too deep. -/

namespace RelGraph.Json.Reader

/-! ### Blanks and strings -/

def isSpace (c : Char) : Bool := c == ' ' || c == '\n' || c == '\t' || c == '\r'

def skipSpace (cs : List Char) : List Char := cs.dropWhile isSpace

/-- A part of a string: a character, or half of a surrogate pair that was written by its code. -/
inductive Piece
  | char (c : Char)
  | high (code : Nat)
  | low (code : Nat)

def Piece.ofCode (code : Nat) : Piece :=
  if 0xd800 ≤ code && code < 0xdc00 then .high code
  else if 0xdc00 ≤ code && code < 0xe000 then .low code
  else .char (Char.ofNat code)

/-- The character that a letter stands for after a backslash. -/
def unescape? : Char → Option Char
  | '"' => some '"'
  | '\\' => some '\\'
  | '/' => some '/'
  | 'b' => some '\x08'
  | 'f' => some '\x0c'
  | 'n' => some '\n'
  | 'r' => some '\r'
  | 't' => some '\t'
  | _ => none

/-- The pieces up to the closing quote, and what follows it. -/
def pieces? : List Char → Option (List Piece × List Char)
  | [] => none
  | '"' :: rest => some ([], rest)
  | '\\' :: 'u' :: a :: b :: c :: d :: rest => do
    let code ← Text.number? Text.hexValue? 16 [a, b, c, d]
    let (more, rest) ← pieces? rest
    return (Piece.ofCode code :: more, rest)
  | '\\' :: e :: rest => do
    let c ← unescape? e
    let (more, rest) ← pieces? rest
    return (.char c :: more, rest)
  | c :: rest =>
    if c.toNat < 32 || c == '\\' then none
    else do
      let (more, rest) ← pieces? rest
      return (.char c :: more, rest)

/-- The characters of the pieces, unless half of a pair stands alone. -/
def assemble? : List Piece → Option (List Char)
  | [] => some []
  | .char c :: rest => (assemble? rest).map (c :: ·)
  | .high h :: .low l :: rest =>
    (assemble? rest).map (Char.ofNat (0x10000 + (h - 0xd800) * 0x400 + (l - 0xdc00)) :: ·)
  | _ => none

/-- A string after its opening quote: its characters, if it stands for any, and the rest. -/
def string? (cs : List Char) : Option (Option String × List Char) := do
  let (pieces, rest) ← pieces? cs
  return ((assemble? pieces).map String.ofList, rest)

/-! ### Numbers -/

/-- The parts of a number as it is written. -/
structure Lexeme where
  negative : Bool
  whole : List Char
  fraction : Option (List Char)
  exponent : Option (Bool × List Char)

def digits (cs : List Char) : List Char × List Char :=
  (cs.takeWhile Char.isDigit, cs.dropWhile Char.isDigit)

/-- The fraction, if a point follows; it has at least one digit. -/
def fraction? : List Char → Option (Option (List Char) × List Char)
  | '.' :: rest =>
    let (ds, rest) := digits rest
    if ds.isEmpty then none else some (some ds, rest)
  | cs => some (none, cs)

/-- The exponent, if one follows: whether it is negative, and at least one digit. -/
def exponent? : List Char → Option (Option (Bool × List Char) × List Char)
  | e :: rest =>
    if e == 'e' || e == 'E' then
      let (negative, rest) := match rest with
        | '-' :: rest => (true, rest)
        | '+' :: rest => (false, rest)
        | rest => (false, rest)
      let (ds, rest) := digits rest
      if ds.isEmpty then none else some (some (negative, ds), rest)
    else some (none, e :: rest)
  | [] => some (none, [])

/-- A number: no zero leads other digits. -/
def lexeme? (cs : List Char) : Option (Lexeme × List Char) := do
  let (negative, cs) := match cs with
    | '-' :: rest => (true, rest)
    | cs => (false, cs)
  let (whole, cs) := digits cs
  if whole.isEmpty || (whole.head? == some '0' && whole.length > 1) then none
  let (fraction, cs) ← fraction? cs
  let (exponent, cs) ← exponent? cs
  return (⟨negative, whole, fraction, exponent⟩, cs)

def digitValue (c : Char) : Nat := c.toNat - 48

/-- The value of the leading digits that fit into 64 bits, and how many digits follow them. -/
def wholeValue (value dropped : Nat) : List Char → Nat × Nat
  | [] => (value, dropped)
  | c :: rest =>
    let next := 10 * value + digitValue c
    if dropped > 0 || next ≥ Nat.pow 2 64 then wholeValue value (dropped + 1) rest
    else wholeValue next 0 rest

/-- Appends the digits of a fraction as long as the value fits into 64 bits, and counts them. -/
def fractionValue (value count : Nat) : List Char → Nat × Nat
  | [] => (value, count)
  | c :: rest =>
    let next := 10 * value + digitValue c
    if next ≥ Nat.pow 2 64 then (value, count) else fractionValue next (count + 1) rest

/-- Divides by a power of ten, in steps that are themselves floating-point numbers. -/
def shrink (x : Float) (places : Nat) : Float :=
  if places ≤ 308 then x / Float.ofScientific 1 false places
  else if x == 0 then x
  else shrink (x / Float.ofScientific 1 false 308) (places - 308)
termination_by places

/-- `value * 10 ^ exponent` by one multiplication or division, unless that is too great. -/
def scale? (value : Nat) (exponent : Int) : Option Float :=
  let x := value.toUInt64.toFloat
  if exponent < 0 then some (shrink x exponent.natAbs)
  else if exponent > 308 then if value == 0 then some x else none
  else
    let y := x * Float.ofScientific 1 false exponent.toNat
    if y.isInf then none else some y

def signed (negative : Bool) (x : Float) : Float := if negative then -x else x

/-- The number that is written. Without fraction and exponent it is whole if it fits into 64 bits;
a negative zero is not whole. -/
def Lexeme.datum (l : Lexeme) : Datum :=
  let (whole, dropped) := wholeValue 0 0 l.whole
  if l.fraction.isNone && l.exponent.isNone && dropped == 0 && !l.negative then .nat whole
  else if l.fraction.isNone && l.exponent.isNone && dropped == 0 && whole != 0
      && whole ≤ Nat.pow 2 63 then .int (-whole)
  else
    let (value, count) := fractionValue whole 0 (l.fraction.getD [])
    let written := match l.exponent with
      | none => some (0 : Int)
      | some (negative, ds) =>
        let e := ds.foldl (fun n d => 10 * n + digitValue d) 0
        if e < Nat.pow 2 31 then some (if negative then -(e : Int) else e)
        else if negative || value == 0 then some (-(Nat.pow 2 31 : Int))
        else none
    match written.bind fun e => scale? value (e + dropped - count) with
    | some x => .float (signed l.negative x)
    | none => .unreadable

/-! ### Values -/

/-- How many arrays and objects may stand one in the other. -/
def depthLimit : Nat := 127

/-- What is read where `room` more levels may be opened. -/
def within (room : Nat) (d : Datum) : Datum := if room == 0 then .unreadable else d

mutual

/-- A value and what follows it. -/
def value? : Nat → Nat → List Char → Option (Datum × List Char)
  | 0, _, _ => none
  | fuel + 1, room, cs =>
    match skipSpace cs with
    | '"' :: rest => do
      let (s, rest) ← string? rest
      return ((s.map Datum.str).getD .unreadable, rest)
    | '[' :: rest =>
      match skipSpace rest with
      | ']' :: rest => some (within room (.list []), rest)
      | rest => do
        let (items, rest) ← items? fuel (room - 1) rest
        return (within room (.list items), rest)
    | '\x7b' :: rest =>
      match skipSpace rest with
      | '\x7d' :: rest => some (within room (.table []), rest)
      | rest => do
        let (entries, readable, rest) ← entries? fuel (room - 1) rest
        return (within room (if readable then .table entries else .unreadable), rest)
    | 't' :: 'r' :: 'u' :: 'e' :: rest => some (.bool true, rest)
    | 'f' :: 'a' :: 'l' :: 's' :: 'e' :: rest => some (.bool false, rest)
    | 'n' :: 'u' :: 'l' :: 'l' :: rest => some (.null, rest)
    | rest => do
      let (l, rest) ← lexeme? rest
      return (l.datum, rest)

/-- The items of an array up to its closing bracket. -/
def items? : Nat → Nat → List Char → Option (List Datum × List Char)
  | 0, _, _ => none
  | fuel + 1, room, cs => do
    let (d, rest) ← value? fuel room cs
    match skipSpace rest with
    | ',' :: rest =>
      let (more, rest) ← items? fuel room rest
      return (d :: more, rest)
    | ']' :: rest => return ([d], rest)
    | _ => none

/-- The members of an object up to its closing brace, and whether all of its keys are readable. -/
def entries? : Nat → Nat → List Char → Option (List (String × Datum) × Bool × List Char)
  | 0, _, _ => none
  | fuel + 1, room, cs =>
    match skipSpace cs with
    | '"' :: rest => do
      let (key, rest) ← string? rest
      match skipSpace rest with
      | ':' :: rest =>
        let (d, rest) ← value? fuel room rest
        let entry := (key.getD "", d)
        match skipSpace rest with
        | ',' :: rest =>
          let (more, readable, rest) ← entries? fuel room rest
          return (entry :: more, key.isSome && readable, rest)
        | '\x7d' :: rest => return ([entry], key.isSome, rest)
        | _ => none
      | _ => none
    | _ => none

end

/-- Reads a text that holds one value. -/
def readChars? (cs : List Char) : Option Datum := do
  let (d, rest) ← value? (2 * cs.length + 1) depthLimit cs
  if (skipSpace rest).isEmpty then some d else none

def read? (text : String) : Option Datum := readChars? text.toList

end RelGraph.Json.Reader
