import RelGraph.Decimal.Shortest
import RelGraph.Json
import RelGraph.Text.Hex

/-! JSON texts. A value is written either without any blanks or with one member or element to a
line and two blanks of indentation for every level. -/

namespace RelGraph.Json

/-! ### Strings -/

/-- A character within quotes. The quote, the backslash and the control characters are escaped. -/
def escape (c : Char) : List Char :=
  if c == '"' then ['\\', '"']
  else if c == '\\' then ['\\', '\\']
  else if c == '\n' then ['\\', 'n']
  else if c == '\t' then ['\\', 't']
  else if c == '\r' then ['\\', 'r']
  else if c == '\x08' then ['\\', 'b']
  else if c == '\x0c' then ['\\', 'f']
  else if c.toNat < 32 then
    ['\\', 'u', '0', '0', Text.hexDigit (c.toNat / 16), Text.hexDigit (c.toNat % 16)]
  else [c]

def quote (s : String) : List Char := '"' :: (s.toList.flatMap escape ++ ['"'])

/-! ### Numbers -/

/-- How floating-point numbers are written: the range of exponents without an exponent part. -/
structure FloatFormat where
  leastPositional : Int
  greatestPositional : Int

/-- From a hundred-thousandth up to sixteen places before the point no exponent is written. -/
def floatFormat : FloatFormat := ⟨-5, 15⟩

/-- A finite number in its shortest form, always with a fraction or an exponent. -/
def floatText (x : Float) : String :=
  let d := Decimal.shortest x
  let digits := (toString d.digits).toList
  let sign := if x.toBits.toNat / Nat.pow 2 63 == 1 then ['-'] else []
  let body :=
    if floatFormat.leastPositional ≤ d.exponent && d.exponent ≤ floatFormat.greatestPositional then
      if d.exponent < 0 then
        '0' :: '.' :: (List.replicate (-d.exponent - 1).toNat '0' ++ digits)
      else
        let whole := d.exponent.toNat + 1
        let fraction := digits.drop whole
        digits.take whole ++ List.replicate (whole - digits.length) '0' ++
          '.' :: (if fraction.isEmpty then ['0'] else fraction)
    else
      let exponent := (if d.exponent < 0 then "e-" else "e+") ++ toString d.exponent.natAbs
      digits.take 1 ++ (if digits.length == 1 then [] else '.' :: digits.drop 1) ++ exponent.toList
  String.ofList (sign ++ body)

def intText (n : Int) : List Char :=
  if n < 0 then '-' :: (toString n.natAbs).toList else (toString n.natAbs).toList

/-- Numbers that are not finite have no JSON text; they are written as `null`. -/
def floatChars (x : Float) : List Char :=
  if x.isFinite then (floatText x).toList else "null".toList

/-! ### Values -/

/-- The text without blanks. -/
def compactChars : Json → List Char
  | null => "null".toList
  | bool b => (if b then "true" else "false").toList
  | int n => intText n
  | float x => floatChars x
  | str s => quote s
  | arr items => '[' :: (elements items ++ [']'])
  | obj members => '\x7b' :: (fields members ++ ['\x7d'])
where
  elements : List Json → List Char
    | [] => []
    | [j] => compactChars j
    | j :: rest => compactChars j ++ ',' :: elements rest
  fields : List (String × Json) → List Char
    | [] => []
    | [(k, j)] => quote k ++ ':' :: compactChars j
    | (k, j) :: rest => quote k ++ ':' :: (compactChars j ++ ',' :: fields rest)

def newline (level : Nat) : List Char := '\n' :: List.replicate (2 * level) ' '

/-- The indented text of a value that stands at the given level. -/
def prettyChars (level : Nat) : Json → List Char
  | null => "null".toList
  | bool b => (if b then "true" else "false").toList
  | int n => intText n
  | float x => floatChars x
  | str s => quote s
  | arr [] => ['[', ']']
  | arr (j :: rest) =>
    '[' :: (newline (level + 1) ++ prettyChars (level + 1) j ++ elements level rest ++
      newline level ++ [']'])
  | obj [] => ['\x7b', '\x7d']
  | obj ((k, j) :: rest) =>
    '\x7b' :: (newline (level + 1) ++ quote k ++ ':' :: ' ' :: prettyChars (level + 1) j ++
      fields level rest ++ newline level ++ ['\x7d'])
where
  elements (level : Nat) : List Json → List Char
    | [] => []
    | j :: rest =>
      ',' :: (newline (level + 1) ++ prettyChars (level + 1) j ++ elements level rest)
  fields (level : Nat) : List (String × Json) → List Char
    | [] => []
    | (k, j) :: rest =>
      ',' :: (newline (level + 1) ++ quote k ++ ':' :: ' ' :: prettyChars (level + 1) j ++
        fields level rest)

def compact (j : Json) : String := String.ofList j.compactChars

def pretty (j : Json) : String := String.ofList (j.prettyChars 0)

end RelGraph.Json
