/-! The floating-point number nearest to a decimal. The decimal is a fraction of whole numbers; its
quotient by a power of two is rounded to 53 binary digits, and a half goes to the even neighbour. -/

namespace RelGraph.Decimal

/-- The quotient rounded to the nearest whole number, a half to the even one. -/
def roundDiv (num den : Nat) : Nat :=
  let low := num / den
  let twice := 2 * (num % den)
  if twice < den || (twice == den && low % 2 == 0) then low else low + 1

/-- The greatest `q`, at least -1074, for which `num / den / 2 ^ q` has 53 binary digits or more
before the point. -/
def lastPlace (num den : Nat) : Int :=
  let q : Int := (num.log2 : Int) - den.log2 - 52
  let reaches := den * Nat.pow 2 52 * Nat.pow 2 q.toNat ≤ num * Nat.pow 2 (-q).toNat
  max (-1074) (if reaches then q else q - 1)

/-- The bits of the number nearest to `num / den`, which is beyond all finite numbers when it rounds
to `2 ^ 1024` or more. -/
def nearestBits (num den : Nat) : Nat :=
  if num == 0 then 0
  else
    let q := lastPlace num den
    let significand := roundDiv (num * Nat.pow 2 (-q).toNat) (den * Nat.pow 2 q.toNat)
    let bits :=
      if significand < Nat.pow 2 52 then significand
      else (q + 1075).toNat * Nat.pow 2 52 + (significand - Nat.pow 2 52)
    min bits (2047 * Nat.pow 2 52)

/-- Exponents beyond which every decimal with few digits is infinite or zero. -/
def exponentLimit : Int := 400

/-- The number nearest to `digits * 10 ^ exponent`. -/
def nearest (digits : Nat) (exponent : Int) : Float :=
  let size : Int := (toString digits).length + exponent
  let bits :=
    if digits == 0 || size < -exponentLimit then 0
    else if size > exponentLimit then 2047 * Nat.pow 2 52
    else nearestBits (digits * Nat.pow 10 exponent.toNat) (Nat.pow 10 (-exponent).toNat)
  Float.ofBits bits.toUInt64

end RelGraph.Decimal
