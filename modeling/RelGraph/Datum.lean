import RelGraph.Json

/-! Data as they are read. A text in some format is read into a datum first, and what is wanted is
then taken from the datum. A datum can hold more than a JSON value: entries with equal keys, numbers
that are not finite, and parts that cannot be read, which do no harm as long as nobody looks at
them. -/

namespace RelGraph

inductive Datum
  | null
  | bool (b : Bool)
  /-- A whole number whose format holds it without a sign. -/
  | nat (n : Nat)
  | int (n : Int)
  | float (x : Float)
  | str (s : String)
  | list (items : List Datum)
  | table (entries : List (String × Datum))
  /-- Something that is well-formed and yet stands for no value. -/
  | unreadable
  deriving Inhabited

namespace Datum

/-- A JSON value as a datum. -/
def ofJson : Json → Datum
  | .null => null
  | .bool b => bool b
  | .int (.ofNat n) => nat n
  | .int n => int n
  | .float x => float x
  | .str s => str s
  | .arr items => list (ofItems items)
  | .obj members => table (ofMembers members)
where
  ofItems : List Json → List Datum
    | [] => []
    | j :: rest => ofJson j :: ofItems rest
  ofMembers : List (String × Json) → List (String × Datum)
    | [] => []
    | (k, j) :: rest => (k, ofJson j) :: ofMembers rest

/-- The members of an object in ascending order, of equal keys the last. -/
def sortMembers (members : List (String × Json)) : List (String × Json) :=
  let sorted : Ascending (Prod.fst : String × Json → String) := Ascending.ofList members
  sorted.entries

/-- The JSON value that a datum stands for, with the members of every object in ascending order.
Numbers that are not finite become `null`. -/
def toJson? : Datum → Option Json
  | null => some .null
  | bool b => some (.bool b)
  | nat n => some (.int n)
  | int n => some (.int n)
  | float x => some (if x.isFinite then .float x else .null)
  | str s => some (.str s)
  | list items => (toItems? items).map .arr
  | table entries => (toMembers? entries).map fun members => .obj (sortMembers members)
  | unreadable => none
where
  toItems? : List Datum → Option (List Json)
    | [] => some []
    | d :: rest => do return (← toJson? d) :: (← toItems? rest)
  toMembers? : List (String × Datum) → Option (List (String × Json))
    | [] => some []
    | (k, d) :: rest => do return (k, ← toJson? d) :: (← toMembers? rest)

/-! ### Plain values -/

def string? : Datum → Option String
  | str s => some s
  | _ => none

def bool? : Datum → Option Bool
  | bool b => some b
  | _ => none

/-- A count: a whole number of 64 bits that is not negative. -/
def count? : Datum → Option Nat
  | nat n => if n < Nat.pow 2 64 then some n else none
  | int n => if 0 ≤ n && n < Nat.pow 2 64 then some n.toNat else none
  | _ => none

/-- The items, each read by `item`. -/
def list? {α : Type} (item : Datum → Option α) : Datum → Option (List α)
  | list items => items.mapM item
  | _ => none

def strings? : Datum → Option (List String) := list? string?

/-- Nothing for `null`, and otherwise what `item` reads. -/
def nullable? {α : Type} (item : Datum → Option α) : Datum → Option (Option α)
  | null => some none
  | d => (item d).map some

/-- The entries in ascending order of their keys, each value read by `value`. -/
def map? {α : Type} (value : Datum → Option α) :
    Datum → Option (Ascending (Prod.fst : String × α → String))
  | table entries => do
    let read ← entries.mapM fun e => do return (e.1, ← value e.2)
    return Ascending.ofList read
  | _ => none

/-! ### Records -/

/-- In what the sources of data differ. -/
structure Conventions where
  /-- A record that is written as a list may have more items than fields. -/
  surplusItems : Bool
  /-- Of a choice that is written as a table the first key counts alone. -/
  looseChoices : Bool
  /-- An empty table may stand for `null` after the name of a choice. -/
  emptyTableIsNull : Bool
  /-- A kind may be given by its place among the kinds. -/
  kindsByPlace : Bool
  deriving DecidableEq, Repr

/-- A JSON text or value. -/
def Conventions.json : Conventions := ⟨false, false, false, false⟩

/-- A configuration that was put together from several places. -/
def Conventions.layered : Conventions := ⟨true, true, false, true⟩

/-- What was set aside until the kind of its record was known. -/
def Conventions.deferred : Conventions := ⟨false, false, true, true⟩

def lookUp? (key : String) (entries : List (String × Datum)) : Option Datum :=
  (entries.find? (·.1 == key)).map Prod.snd

/-- The fields of a record in the order of their names. A record is a table in which no field is
repeated, or a list of its fields from the first on. -/
def fields? (c : Conventions) (names : List String) : Datum → Option (List (Option Datum))
  | table entries =>
    if names.any fun n => (entries.countP (·.1 == n)) > 1 then none
    else some (names.map (lookUp? · entries))
  | list items =>
    if items.length > names.length && !c.surplusItems then none
    else some ((List.range names.length).map (items[·]?))
  | _ => none

/-- A field that has to be there. -/
def required? {α : Type} (read : Datum → Option α) (field : Option Datum) : Option α :=
  field.bind read

/-- A field that has a value when it is left out. -/
def optional? {α : Type} (default : α) (read : Datum → Option α) : Option Datum → Option α
  | none => some default
  | some d => read d

/-- Whether the datum may follow the name of a choice that has no content. -/
def isUnit (c : Conventions) : Datum → Bool
  | null => true
  | table [] => c.emptyTableIsNull
  | _ => false

/-- One of several names. The name stands alone, or is the only key of a table and has no
content. -/
def choice? {α : Type} (c : Conventions) (names : List (String × α)) : Datum → Option α
  | str s => names.lookup s
  | table ((k, content) :: rest) =>
    if (rest.isEmpty || c.looseChoices) && isUnit c content then names.lookup k else none
  | _ => none

end Datum

end RelGraph
