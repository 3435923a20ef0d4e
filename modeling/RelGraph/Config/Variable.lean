import RelGraph.Text.Blank
import RelGraph.Toml.Number

/-! Variables of the environment as parts of a configuration. The name of a variable is a path of
keys below a stem that all such variables share; its value is a word, a number, a list, a table or a
quoted text with the escapes of TOML. Blanks around a value are left out. Whatever reads as none of
these is taken as it stands, blanks included. -/

namespace RelGraph.Config.Variable

/-! ### Texts and numbers -/

def isSpace (c : Char) : Bool :=
  c == ' ' || c == '\t' || c == '\n' || c == '\r' || c == '\x0c'

def skipSpace (cs : List Char) : List Char := cs.dropWhile isSpace

/-- A character that separates values. -/
def isSeparator (c : Char) : Bool :=
  c == ',' || c == '[' || c == ']' || c == '\x7b' || c == '\x7d'

def isKeyChar (c : Char) : Bool := c.isAlphanum || c == '_' || c == '-'

def digitsValue (digits : List Char) : Nat :=
  digits.foldl (fun n c => 10 * n + (c.toNat - 48)) 0

/-- The digits of a text that holds nothing else. -/
def onlyDigits? (cs : List Char) : Option Nat :=
  if !cs.isEmpty && cs.all Char.isDigit then some (digitsValue cs) else none

/-- A whole number, without a sign up to 64 bits and with a minus up to 63. -/
def int? (cs : List Char) : Option Int := do
  let (negative, digits) := Toml.sign cs
  let n ← onlyDigits? digits
  if negative then if n ≤ Nat.pow 2 63 then some (-n) else none
  else if n < Nat.pow 2 64 then some n else none

/-- The exponent of a number, which ends with it. -/
def exponent? : List Char → Option Int
  | [] => some 0
  | e :: rest => do
    if e != 'e' && e != 'E' then none
    let (negative, digits) := Toml.sign rest
    let n ← onlyDigits? digits
    return if negative then -n else n

/-- A number with a point and digits on one of its sides. -/
def float? (cs : List Char) : Option Float := do
  let (negative, cs) := Toml.sign cs
  let whole := cs.takeWhile Char.isDigit
  match cs.dropWhile Char.isDigit with
  | '.' :: rest =>
    let places := rest.takeWhile Char.isDigit
    let exponent ← exponent? (rest.dropWhile Char.isDigit)
    if whole.isEmpty && places.isEmpty then none
    let x := Decimal.nearest (digitsValue (whole ++ places)) (exponent - places.length)
    return if negative then -x else x
  | _ => none

/-- A number, or else the text itself. -/
def plain (s : String) : Datum :=
  let cs := s.toList
  match if cs.contains '.' then float? cs else none with
  | some x => .float x
  | none =>
    match int? cs with
    | some (.ofNat n) => if cs.head? == some '-' then .int n else .nat n
    | some n => .int n
    | none => .str s

/-! ### Quoted texts -/

/-- The characters that lie within so many bytes from the start of a text. -/
def withinBytes : Nat → List Char → List Char
  | n, c :: rest => if c.utf8Size ≤ n then c :: withinBytes (n - c.utf8Size) rest else []
  | _, [] => []

/-- A text in quotes up to the closing one. Of what stands before the first escape as many bytes are
kept as it has characters; all of it if it is ASCII. -/
def quoted? (cs : List Char) : Option (List Char × List Char) := do
  let (text, rest) ← Toml.basic? cs
  let before := cs.takeWhile fun c => c != '\\' && c != '"'
  if cs[before.length]? == some '\\' then
    return (withinBytes before.length before ++ text.drop before.length, rest)
  else return (text, rest)

/-! ### Values -/

/-- A key with its equals sign, blanks around the key included. -/
def key? (cs : List Char) : Option (String × List Char) := do
  let (key, rest) ←
    match skipSpace cs with
    | '"' :: rest => quoted? rest
    | rest =>
      let key := rest.takeWhile isKeyChar
      if key.isEmpty then none else some (key, rest.dropWhile isKeyChar)
  match skipSpace rest with
  | '=' :: rest => return (String.ofList key, rest)
  | _ => none

/-- The entries in ascending order of their keys, of equal keys the last. -/
def table (entries : List (String × Datum)) : Datum :=
  let ascending : Ascending (Prod.fst : String × Datum → String) := Ascending.ofList entries
  .table ascending.entries

mutual

/-- A value with the blanks around it, and what follows. -/
def value? : Nat → List Char → Option (Datum × List Char)
  | 0, _ => none
  | fuel + 1, cs => do
    let (d, rest) ←
      match skipSpace cs with
      | 't' :: 'r' :: 'u' :: 'e' :: rest => some (.bool true, rest)
      | 'f' :: 'a' :: 'l' :: 's' :: 'e' :: rest => some (.bool false, rest)
      | '\x7b' :: rest => (entries? fuel rest).map fun (entries, rest) => (table entries, rest)
      | '[' :: rest => (items? fuel rest).map fun (items, rest) => (.list items, rest)
      | '"' :: rest => (quoted? rest).map fun (s, rest) => (.str (String.ofList s), rest)
      | '\'' :: c :: '\'' :: rest => some (.str c.toString, rest)
      | '\'' :: _ => none
      | rest =>
        some (plain (Text.trim (String.ofList (rest.takeWhile (!isSeparator ·)))),
          rest.dropWhile (!isSeparator ·))
    return (d, skipSpace rest)

/-- The items of a list up to its closing bracket. A comma may stand after the last one. -/
def items? : Nat → List Char → Option (List Datum × List Char)
  | 0, _ => none
  | fuel + 1, cs =>
    match cs with
    | ']' :: rest => some ([], rest)
    | cs => do
      let (d, rest) ← value? fuel cs
      match rest with
      | ',' :: rest =>
        let (more, rest) ← items? fuel rest
        return (d :: more, rest)
      | ']' :: rest => return ([d], rest)
      | _ => none

/-- The entries of a table up to its closing brace. A comma may stand after the last one. -/
def entries? : Nat → List Char → Option (List (String × Datum) × List Char)
  | 0, _ => none
  | fuel + 1, cs =>
    match cs with
    | '\x7d' :: rest => some ([], rest)
    | cs => do
      let (key, rest) ← key? cs
      let (d, rest) ← value? fuel rest
      match rest with
      | ',' :: rest =>
        let (more, rest) ← entries? fuel rest
        return ((key, d) :: more, rest)
      | '\x7d' :: rest => return ([(key, d)], rest)
      | _ => none

end

/-- What a text stands for. A text that does not read as a value to its end stands for itself. -/
def datum (text : String) : Datum :=
  let cs := text.toList
  match value? (2 * cs.length + 2) cs with
  | some (d, []) => d
  | _ => .str text

/-! ### Names -/

/-- What follows the stem, which is found without regard to the case of its letters. -/
def afterStem? : List Char → List Char → Option (List Char)
  | [], name => some name
  | s :: stem, c :: name => if s.toLower == c.toLower then afterStem? stem name else none
  | _ :: _, [] => none

/-- Replaces every pair of underscores by a point. -/
def dotted : List Char → List Char
  | '_' :: '_' :: rest => '.' :: dotted rest
  | c :: rest => c :: dotted rest
  | [] => []

/-- The path of keys that a name stands for, in lower case. No key is empty. -/
def path? (stem name : String) : Option (List String) := do
  let rest ← afterStem? stem.toList (Text.trim name).toList
  let keys := (Text.trim (String.ofList (dotted rest))).toLower.splitOn "."
  if keys.any (·.isEmpty) then none else some keys

/-- A value below a path of keys. -/
def nest (d : Datum) : List String → Datum
  | [] => d
  | key :: path => .table [(key, nest d path)]

/-- The part of a configuration that one variable gives. -/
def part? (stem : String) (entry : String × String) : Option Datum := do
  return nest (datum entry.2) (← path? stem entry.1)

end RelGraph.Config.Variable
