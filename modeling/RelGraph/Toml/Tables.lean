import RelGraph.Datum

/-! Tables of TOML while they are read. A table that was opened by its own header can be opened
once; one that only stands on the way to others can still be opened; and one that a dotted key made
can only be extended by dotted keys. Values never change. -/

namespace RelGraph.Toml

/-- How a table came to be. -/
inductive Origin
  /-- By its own header. -/
  | header
  /-- On the way of a header to another table. -/
  | passed
  /-- On the way of a dotted key to its value. -/
  | dotted
  deriving DecidableEq, Repr

/-- What a key leads to. -/
inductive Node
  | value (d : Datum)
  | table (origin : Origin) (entries : List (String × Node))
  /-- An array of tables; the last one comes first. -/
  | tables (items : List (List (String × Node)))
  deriving Inhabited

/-- The entries of a table, in the order in which their keys were first met. -/
abbrev Entries := List (String × Node)

namespace Entries

def find? (es : Entries) (key : String) : Option Node := (List.find? (·.1 == key) es).map Prod.snd

/-- Puts a node in the place of its key, or at the end. -/
def put (key : String) (n : Node) : Entries → Entries
  | [] => [(key, n)]
  | e :: rest => if e.1 == key then (key, n) :: rest else e :: put key n rest

/-- Adds a value at the end of a path of dotted keys. `here` tells whether the table is one that a
dotted key made, and `dotted` whether the whole key has dots; they have to agree at the end. -/
def setValue (dotted here : Bool) (key : String) (d : Datum) :
    List String → Entries → Option Entries
  | [], es =>
    if dotted != here || (es.find? key).isSome then none else some (es ++ [(key, .value d)])
  | first :: path, es => do
    match es.find? first with
    | none => return put first (.table .dotted (← setValue dotted true key d path [])) es
    | some (.table origin inner) =>
      if origin == .header then none
      else
        let here := origin == .dotted
        return put first (.table origin (← setValue dotted here key d path inner)) es
    | some (.tables (last :: before)) =>
      return put first (.tables ((← setValue dotted false key d path last) :: before)) es
    | some (.tables []) | some (.value _) => none

/-- Adds a value under a key with the parts before its last one. -/
def insert (path : List String) (key : String) (d : Datum) (es : Entries) : Option Entries :=
  setValue (!path.isEmpty) false key d path es

/-- Goes along a path, through the last of several tables, and changes the table at its end. Tables
that are missing are made on the way. -/
def alter (change : Entries → Option Entries) : List String → Entries → Option Entries
  | [], es => change es
  | first :: path, es => do
    match es.find? first with
    | none => return put first (.table .passed (← alter change path [])) es
    | some (.table origin inner) =>
      return put first (.table origin (← alter change path inner)) es
    | some (.tables (last :: before)) =>
      return put first (.tables ((← alter change path last) :: before)) es
    | some (.tables []) | some (.value _) => none

/-- Opens a table by its header. -/
def openTable (path : List String) (key : String) (es : Entries) : Option Entries :=
  es.alter (fun inner =>
    match inner.find? key with
    | none => some (put key (.table .header []) inner)
    | some (.table .passed content) => some (put key (.table .header content) inner)
    | _ => none) path

/-- Opens one more table of an array of tables. -/
def openItem (path : List String) (key : String) (es : Entries) : Option Entries :=
  es.alter (fun inner =>
    match inner.find? key with
    | none => some (put key (.tables [[]]) inner)
    | some (.tables items) => some (put key (.tables ([] :: items)) inner)
    | _ => none) path

end Entries

/-! ### What was read -/

/-- The entries in ascending order of their keys. -/
def sorted (entries : List (String × Datum)) : List (String × Datum) :=
  let ascending : Ascending (Prod.fst : String × Datum → String) := Ascending.ofList entries
  ascending.entries

def Node.datum : Node → Datum
  | value d => d
  | table _ entries => .table (sorted (ofEntries entries))
  | tables items => .list (ofTables items).reverse
where
  ofEntries : List (String × Node) → List (String × Datum)
    | [] => []
    | (key, n) :: rest => (key, n.datum) :: ofEntries rest
  ofTables : List (List (String × Node)) → List Datum
    | [] => []
    | es :: rest => .table (sorted (ofEntries es)) :: ofTables rest

/-- The table of all entries. -/
def Entries.datum (es : Entries) : Datum := (Node.table .header es).datum

end RelGraph.Toml
