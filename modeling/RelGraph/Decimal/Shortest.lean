/-! The shortest decimal that reads back. A finite floating-point number is `m * 2 ^ q`, and all
reals between the midpoints to its neighbours are rounded to it, the midpoints included when `m` is
even. Of the decimals in that interval one with the fewest digits is taken, and of those the one
nearest to the number. All of this is done in whole numbers. -/

namespace RelGraph.Decimal

/-- A decimal `0.d₁d₂… * 10 ^ (exponent + 1)`, that is `d₁.d₂… * 10 ^ exponent`. -/
structure Digits where
  digits : Nat
  exponent : Int
  deriving DecidableEq, Repr

/-- The magnitude of a finite number as `significand * 2 ^ exponent`. -/
structure Binary where
  significand : Nat
  exponent : Int
  /-- The gap to the number below is half of the gap to the number above. -/
  narrowBelow : Bool
  deriving DecidableEq, Repr

def Binary.ofBits (bits : Nat) : Binary :=
  let fraction := bits % Nat.pow 2 52
  let power : Nat := bits / Nat.pow 2 52 % Nat.pow 2 11
  if power == 0 then ⟨fraction, -1074, false⟩
  else ⟨Nat.pow 2 52 + fraction, (power : Int) - 1075, fraction == 0 && power != 1⟩

/-- The fraction `numerator / denominator` scaled by a power of ten and compared in quarters of the
last binary place. -/
structure Scaled where
  value : Nat
  below : Nat
  above : Nat
  unit : Nat

/-- The number and the ends of its interval in quarters of its last place, and `10 ^ place` in the
same measure. -/
def Binary.scaled (b : Binary) (place : Int) : Scaled :=
  let two := b.exponent - 2
  let up := Nat.pow 2 two.toNat * Nat.pow 10 (-place).toNat
  let down := Nat.pow 2 (-two).toNat * Nat.pow 10 place.toNat
  let below := if b.narrowBelow then 4 * b.significand - 1 else 4 * b.significand - 2
  ⟨4 * b.significand * up, below * up, (4 * b.significand + 2) * up, down⟩

/-- The point `k` of the grid reads back as the number. -/
def Scaled.covers (s : Scaled) (even : Bool) (k : Nat) : Bool :=
  let point := k * s.unit
  if even then s.below ≤ point && point ≤ s.above else s.below < point && point < s.above

/-- Of the two grid points around the number, the one that reads back; of two, the nearer, and of
two as near the even one. -/
def Binary.onGrid? (b : Binary) (place : Int) : Option Nat :=
  let s := b.scaled place
  let even := b.significand % 2 == 0
  let low := s.value / s.unit
  let toLow := s.value - low * s.unit
  let toHigh := (low + 1) * s.unit - s.value
  match s.covers even low, s.covers even (low + 1) with
  | true, true =>
    if toLow < toHigh then some low
    else if toHigh < toLow then some (low + 1)
    else some (if low % 2 == 0 then low else low + 1)
  | true, false => some low
  | false, true => some (low + 1)
  | false, false => none

/-- The greatest `e` with `10 ^ e` at most the number, which is not zero. -/
def Binary.magnitude (b : Binary) : Int :=
  let guess : Int := ((b.significand.log2 : Int) + b.exponent) * 30103 / 100000
  let reaches := fun e : Int =>
    let s := b.scaled e
    s.unit ≤ s.value
  if reaches (guess + 1) then guess + 1
  else if reaches guess then guess
  else guess - 1

def dropZeros : Nat → Nat → Nat
  | 0, n => n
  | k + 1, n => if n != 0 && n % 10 == 0 then dropZeros k (n / 10) else n

/-- The digits of the first grid that has a point that reads back. -/
def Binary.search (b : Binary) (magnitude : Int) (count : Nat) : Nat → Digits
  | 0 => ⟨0, 0⟩
  | fuel + 1 =>
    match b.onGrid? (magnitude - count + 1) with
    | some k =>
      let exponent := if k == Nat.pow 10 count then magnitude + 1 else magnitude
      ⟨dropZeros 20 k, exponent⟩
    | none => search b magnitude (count + 1) fuel

/-- The shortest digits of a finite number's magnitude; zero has the digit zero. -/
def shortest (x : Float) : Digits :=
  let b := Binary.ofBits x.toBits.toNat
  if b.significand == 0 then ⟨0, 0⟩ else b.search b.magnitude 1 17

end RelGraph.Decimal
