import RelGraph.Toml.Moment
import RelGraph.Toml.Number
import RelGraph.Toml.Tables

/-! TOML texts. A text is a sequence of statements: a key with a value, the header of a table, or
the header of one more table in an array. A statement with a key and a value belongs to the table
whose header came last. -/

namespace RelGraph.Toml

/-- The key under which a date or a time is handed on, with its text. -/
def momentKey : String := "$__toml_private_datetime"

def Moment.datum (m : Moment) : Datum := .table [(momentKey, .str m.text)]

/-! ### Values -/

/-- A value without values in it. -/
def scalar? (cs : List Char) : Option (Datum × List Char) :=
  match cs with
  | 't' :: 'r' :: 'u' :: 'e' :: rest => some (.bool true, rest)
  | 'f' :: 'a' :: 'l' :: 's' :: 'e' :: rest => some (.bool false, rest)
  | c :: _ =>
    if c == '"' || c == '\'' then (string? cs).map fun (s, rest) => (.str s, rest)
    else if startsMoment cs then (moment? cs).map fun (m, rest) => (m.datum, rest)
    else numeral? cs
  | [] => none

mutual

/-- A value and what follows it, where `room` more arrays and tables may be opened. -/
def value? : Nat → Nat → List Char → Option (Datum × List Char)
  | 0, _, _ => none
  | fuel + 1, room, cs =>
    match cs with
    | '[' :: rest =>
      match room with
      | 0 => none
      | room + 1 => do
        let (items, rest) ← items? fuel room (skipFiller false rest)
        return (.list items, rest)
    | '\x7b' :: rest =>
      match room with
      | 0 => none
      | room + 1 =>
        match skipBlanks rest with
        | '\x7d' :: rest => some (.table [], rest)
        | rest => do
          let (entries, rest) ← pairs? fuel room [] rest
          return (entries.datum, rest)
    | cs => scalar? cs

/-- The items of an array up to its closing bracket. A comma may stand after the last one. -/
def items? : Nat → Nat → List Char → Option (List Datum × List Char)
  | 0, _, _ => none
  | fuel + 1, room, cs =>
    match cs with
    | ']' :: rest => some ([], rest)
    | cs => do
      let (d, rest) ← value? fuel room cs
      match skipFiller false rest with
      | ',' :: rest =>
        let (more, rest) ← items? fuel room (skipFiller false rest)
        return (d :: more, rest)
      | ']' :: rest => return ([d], rest)
      | _ => none

/-- The pairs of a table on one line up to its closing brace, added to those before them. -/
def pairs? : Nat → Nat → Entries → List Char → Option (Entries × List Char)
  | 0, _, _, _ => none
  | fuel + 1, room, es, cs => do
    let (path, key, rest) ← key? cs
    let (d, rest) ← value? fuel room (skipBlanks (← char? '=' rest))
    let es ← es.insert path key d
    match skipBlanks rest with
    | ',' :: rest => pairs? fuel room es rest
    | '\x7d' :: rest => return (es, rest)
    | _ => none

end

/-! ### Statements -/

/-- One statement of a text. -/
inductive Statement
  | pair (path : List String) (key : String) (value : Datum)
  | table (path : List String) (key : String)
  | item (path : List String) (key : String)

/-- A statement and the lines after it. -/
def statement? (cs : List Char) : Option (Statement × List Char) :=
  match cs with
  | '[' :: '[' :: rest => do
    let (path, key, rest) ← key? rest
    return (.item path key, ← endLine? (← char? ']' (← char? ']' rest)))
  | '[' :: rest => do
    let (path, key, rest) ← key? rest
    return (.table path key, ← endLine? (← char? ']' rest))
  | cs => do
    let (path, key, rest) ← key? cs
    let rest ← char? '=' rest
    let (d, rest) ← value? (2 * rest.length + 1) depthLimit (skipBlanks rest)
    return (.pair path key d, ← endLine? rest)

/-- The statements of a text, at most as many as `fuel`. -/
def statements? : Nat → List Char → Option (List Statement)
  | 0, cs => if cs.isEmpty then some [] else none
  | fuel + 1, cs =>
    match skipFiller false cs with
    | [] => some []
    | cs => do
      let (s, rest) ← statement? cs
      return s :: (← statements? fuel rest)

/-- What has been read: all entries, and the path to the table that is open. -/
structure Reading where
  root : Entries
  cursor : List String

def Reading.step? (r : Reading) : Statement → Option Reading
  | .pair path key d => do
    return { r with root := ← r.root.alter (Entries.insert path key d) r.cursor }
  | .table path key => do return ⟨← r.root.openTable path key, path ++ [key]⟩
  | .item path key => do return ⟨← r.root.openItem path key, path ++ [key]⟩

/-- Reads a text into one table. A byte order mark may stand before it. -/
def readChars? (cs : List Char) : Option Datum := do
  let cs := match cs with
    | '\ufeff' :: rest => rest
    | cs => cs
  let statements ← statements? cs.length cs
  let r ← statements.foldlM Reading.step? ⟨[], []⟩
  return r.root.datum

def read? (text : String) : Option Datum := readChars? text.toList

end RelGraph.Toml
