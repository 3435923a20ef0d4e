import RelGraph.Datum
import RelGraph.Decimal.Nearest
import RelGraph.Toml.Text

/-! Numbers of TOML. Whole numbers have 64 bits with a sign, and may be written in base 16, 8 or 2;
a fraction or an exponent makes a floating-point number. An underscore may stand between two
digits. -/

namespace RelGraph.Toml

def digitValue? (c : Char) : Option Nat := if c.isDigit then some (c.toNat - 48) else none

def isDigitOf (value? : Char → Option Nat) (c : Char) : Bool := (value? c).isSome

/-- The digits that follow, without the underscores between them. An underscore that does not stand
between two digits is left. -/
def digitsOf (isDigit : Char → Bool) : List Char → List Char × List Char
  | '_' :: rest => ([], '_' :: rest)
  | c :: '_' :: d :: rest =>
    if isDigit c then
      if isDigit d then
        let (more, rest) := digitsOf isDigit (d :: rest)
        (c :: more, rest)
      else ([c], '_' :: d :: rest)
    else ([], c :: '_' :: d :: rest)
  | c :: rest =>
    if isDigit c then
      let (more, rest) := digitsOf isDigit rest
      (c :: more, rest)
    else ([], c :: rest)
  | [] => ([], [])

/-- Whole numbers have 64 bits. -/
def int? (n : Int) : Option Datum :=
  if -(Nat.pow 2 63 : Int) ≤ n && n < Nat.pow 2 63 then some (.int n) else none

/-- A whole number in another base, after the letter for the base. -/
def based? (value? : Char → Option Nat) (base : Nat) (cs : List Char) :
    Option (Datum × List Char) := do
  let (digits, rest) := digitsOf (isDigitOf value?) cs
  if digits.isEmpty then none
  return (← int? (← Text.number? value? base digits), rest)

def octalValue? (c : Char) : Option Nat := (digitValue? c).filter (· < 8)

def binaryValue? (c : Char) : Option Nat := (digitValue? c).filter (· < 2)

/-- A sign, if one follows: whether it is a minus. -/
def sign : List Char → Bool × List Char
  | '-' :: rest => (true, rest)
  | '+' :: rest => (false, rest)
  | cs => (false, cs)

/-- Digits of which there is at least one. -/
def someDigits? (cs : List Char) : Option (List Char × List Char) :=
  let (digits, rest) := digitsOf Char.isDigit cs
  if digits.isEmpty then none else some (digits, rest)

/-- The digits before the point. A zero stands alone. -/
def whole? : List Char → Option (List Char × List Char)
  | '0' :: rest => some (['0'], rest)
  | cs => someDigits? cs

/-- The digits after a point, if one follows. -/
def places? : List Char → Option (Option (List Char) × List Char)
  | '.' :: rest => do
    let (digits, rest) ← someDigits? rest
    return (some digits, rest)
  | cs => some (none, cs)

/-- The exponent, if one follows. -/
def exponent? : List Char → Option (Option Int × List Char)
  | c :: rest =>
    if c == 'e' || c == 'E' then do
      let (negative, rest) := sign rest
      let (digits, rest) ← someDigits? rest
      let n ← Text.number? digitValue? 10 digits
      return (some (if negative then -(n : Int) else n), rest)
    else some (none, c :: rest)
  | [] => some (none, [])

/-- A floating-point number. One that is too great is refused, and one that is too far below zero
is minus infinity. -/
def float? (negative : Bool) (digits : List Char) (exponent : Int) : Option Datum := do
  let x := Decimal.nearest (← Text.number? digitValue? 10 digits) exponent
  if negative then some (.float (-x)) else if x.isInf then none else some (.float x)

/-- A number in base 10, after its sign. -/
def decimal? (negative : Bool) (cs : List Char) : Option (Datum × List Char) := do
  let (whole, rest) ← whole? cs
  let (places, rest) ← places? rest
  let (exponent, rest) ← exponent? rest
  if places.isNone && exponent.isNone then
    let n ← Text.number? digitValue? 10 whole
    return (← int? (if negative then -(n : Int) else n), rest)
  else
    let fraction := places.getD []
    return (← float? negative (whole ++ fraction) (exponent.getD 0 - fraction.length), rest)

def infinity : Float := 1.0 / 0.0

def notANumber : Float := 0.0 / 0.0

/-- A number of any form. Only a number in base 10 may have a sign. -/
def numeral? (cs : List Char) : Option (Datum × List Char) :=
  match cs with
  | '0' :: 'x' :: rest => based? Text.hexValue? 16 rest
  | '0' :: 'o' :: rest => based? octalValue? 8 rest
  | '0' :: 'b' :: rest => based? binaryValue? 2 rest
  | _ =>
    let (negative, rest) := sign cs
    match rest with
    | 'i' :: 'n' :: 'f' :: rest => some (.float (if negative then -infinity else infinity), rest)
    | 'n' :: 'a' :: 'n' :: rest => some (.float notANumber, rest)
    | _ => decimal? negative rest

end RelGraph.Toml
