/-! Dates and times of TOML. A moment has a date, a time of day or both, and a time zone only with
both. It is written in one normal form: `T` between date and time, `Z` for the zero zone if it was
written as a letter, and no zeros at the end of a fraction of a second. -/

namespace RelGraph.Toml

structure Date where
  year : Nat
  month : Nat
  day : Nat
  deriving DecidableEq, Repr

structure Time where
  hour : Nat
  minute : Nat
  second : Nat
  nanosecond : Nat
  deriving DecidableEq, Repr

inductive Zone
  | zulu
  | shifted (minutes : Int)
  deriving DecidableEq, Repr

/-- A date, a time of day, or both. -/
inductive Moment
  | date (d : Date)
  | time (t : Time)
  | both (d : Date) (t : Time) (zone : Option Zone)
  deriving DecidableEq, Repr

/-! ### Calendar -/

def isLeapYear (year : Nat) : Bool := year % 4 == 0 && (year % 100 != 0 || year % 400 == 0)

def daysInMonth (year month : Nat) : Nat :=
  if month == 2 then if isLeapYear year then 29 else 28
  else if month == 4 || month == 6 || month == 9 || month == 11 then 30
  else 31

def Date.isValid (d : Date) : Bool :=
  1 ≤ d.month && d.month ≤ 12 && 1 ≤ d.day && d.day ≤ daysInMonth d.year d.month

/-- A minute may have a leap second. -/
def Time.isValid (t : Time) : Bool := t.hour ≤ 23 && t.minute ≤ 59 && t.second ≤ 60

/-! ### Texts -/

/-- The digits of a number with zeros before them. -/
def padded (width n : Nat) : String :=
  let digits := toString n
  String.ofList (List.replicate (width - digits.length) '0') ++ digits

def Date.text (d : Date) : String :=
  padded 4 d.year ++ "-" ++ padded 2 d.month ++ "-" ++ padded 2 d.day

/-- A fraction of a second without the zeros at its end. -/
def fractionText (nanosecond : Nat) : String :=
  if nanosecond == 0 then ""
  else "." ++ String.ofList
    ((padded 9 nanosecond).toList.reverse.dropWhile (· == '0')).reverse

def Time.text (t : Time) : String :=
  padded 2 t.hour ++ ":" ++ padded 2 t.minute ++ ":" ++ padded 2 t.second ++
    fractionText t.nanosecond

def Zone.text : Zone → String
  | zulu => "Z"
  | shifted minutes =>
    (if minutes < 0 then "-" else "+") ++ padded 2 (minutes.natAbs / 60) ++ ":" ++
      padded 2 (minutes.natAbs % 60)

def Moment.text : Moment → String
  | date d => d.text
  | time t => t.text
  | both d t zone => d.text ++ "T" ++ t.text ++ ((zone.map Zone.text).getD "")

/-! ### Reading -/

/-- Reads exactly so many digits. -/
def digits? : Nat → List Char → Option (Nat × List Char)
  | 0, cs => some (0, cs)
  | _ + 1, [] => none
  | count + 1, c :: rest =>
    if c.isDigit then do
      let (n, rest) ← digits? count rest
      return ((c.toNat - 48) * Nat.pow 10 count + n, rest)
    else none

def char? (c : Char) : List Char → Option (List Char)
  | d :: rest => if d == c then some rest else none
  | [] => none

def date? (cs : List Char) : Option (Date × List Char) := do
  let (year, cs) ← digits? 4 cs
  let (month, cs) ← digits? 2 (← char? '-' cs)
  let (day, cs) ← digits? 2 (← char? '-' cs)
  let d : Date := ⟨year, month, day⟩
  if d.isValid then some (d, cs) else none

/-- The fraction of a second, if a point follows. Digits after the ninth are dropped. -/
def fraction? : List Char → Option (Nat × List Char)
  | '.' :: rest =>
    let digits := rest.takeWhile Char.isDigit
    if digits.isEmpty then none
    else
      let kept := digits.take 9
      let n := kept.foldl (fun n c => 10 * n + (c.toNat - 48)) 0
      some (n * Nat.pow 10 (9 - kept.length), rest.dropWhile Char.isDigit)
  | cs => some (0, cs)

def time? (cs : List Char) : Option (Time × List Char) := do
  let (hour, cs) ← digits? 2 cs
  let (minute, cs) ← digits? 2 (← char? ':' cs)
  let (second, cs) ← digits? 2 (← char? ':' cs)
  let (nanosecond, cs) ← fraction? cs
  let t : Time := ⟨hour, minute, second, nanosecond⟩
  if t.isValid then some (t, cs) else none

/-- The time zone, if one follows. -/
def zone? : List Char → Option (Option Zone × List Char)
  | c :: rest =>
    if c == 'Z' || c == 'z' then some (some .zulu, rest)
    else if c == '+' || c == '-' then do
      let (hour, rest) ← digits? 2 rest
      let (minute, rest) ← digits? 2 (← char? ':' rest)
      let minutes : Int := hour * 60 + minute
      if hour ≤ 23 && minute ≤ 59 then
        some (some (.shifted (if c == '-' then -minutes else minutes)), rest)
      else none
    else some (none, c :: rest)
  | [] => some (none, [])

/-- The time of day after a date, if a separator and two digits with a colon follow. -/
def timeAfterDate? (d : Date) (cs : List Char) : Option (Moment × List Char) :=
  match cs with
  | separator :: a :: b :: ':' :: rest =>
    if (separator == 'T' || separator == 't' || separator == ' ') && a.isDigit && b.isDigit then do
      let (t, rest) ← time? (a :: b :: ':' :: rest)
      let (zone, rest) ← zone? rest
      return (.both d t zone, rest)
    else some (.date d, cs)
  | _ => some (.date d, cs)

/-- Whether a date or a time begins here, and not a number. -/
def startsMoment (cs : List Char) : Bool :=
  let digits := cs.takeWhile Char.isDigit
  (digits.length == 4 && (cs.drop 4).head? == some '-') ||
    (digits.length == 2 && (cs.drop 2).head? == some ':')

def moment? (cs : List Char) : Option (Moment × List Char) :=
  if (cs.drop 2).head? == some ':' then (time? cs).map fun (t, rest) => (.time t, rest)
  else do
    let (d, rest) ← date? cs
    timeAfterDate? d rest

end RelGraph.Toml
