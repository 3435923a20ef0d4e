/-! Hexadecimal digits and the characters whose codes they write. -/

namespace RelGraph.Text

def hexValue? (c : Char) : Option Nat :=
  if c.isDigit then some (c.toNat - 48)
  else if 'a' ≤ c && c ≤ 'f' then some (c.toNat - 87)
  else if 'A' ≤ c && c ≤ 'F' then some (c.toNat - 55)
  else none

/-- The digit of a value below sixteen, as a small letter above nine. -/
def hexDigit (n : Nat) : Char := if n < 10 then Char.ofNat (48 + n) else Char.ofNat (87 + n)

/-- The number that digits stand for in a base. -/
def number? (value? : Char → Option Nat) (base : Nat) (digits : List Char) : Option Nat :=
  digits.foldlM (fun n d => do return base * n + (← value? d)) 0

/-- The character of a code that is written in hexadecimal. -/
def charOfHex? (digits : List Char) : Option Char := do
  let code ← number? hexValue? 16 digits
  if code.isValidChar then some (Char.ofNat code) else none

end RelGraph.Text
