import RelGraph.Unicode.CodeSet

/-! Tables over code points, written as runs: a value and the number of code points it goes on
for. -/

namespace RelGraph.Unicode

/-- A value that `length` code points in a row have. -/
structure Run where
  length : Nat
  value : String
  deriving DecidableEq, Repr

namespace Runs

/-- Reads runs such as `32Cc1Zs`: a length in decimal and the letters of the value. -/
def ofChars (length : Nat) (value : List Char) : List Char → List Run
  | [] => if value.isEmpty then [] else [⟨length, String.ofList value.reverse⟩]
  | c :: rest =>
    if c.isDigit then
      if value.isEmpty then ofChars (10 * length + (c.toNat - '0'.toNat)) [] rest
      else ⟨length, String.ofList value.reverse⟩ :: ofChars (c.toNat - '0'.toNat) [] rest
    else ofChars length (c :: value) rest

def ofLines (lines : List String) : List Run := ofChars 0 [] (lines.flatMap String.toList)

/-- The value at a code point; the empty text past the end of the table. -/
def valueAt : List Run → Nat → String
  | [], _ => ""
  | r :: rest, code => if code < r.length then r.value else valueAt rest (code - r.length)

/-- The stretches of the runs whose value satisfies `p`, from a start on. -/
def stretchesFrom (p : String → Bool) (start : Nat) : List Run → List Stretch
  | [] => []
  | r :: rest =>
    let more := stretchesFrom p (start + r.length) rest
    if p r.value then ⟨start, start + r.length - 1⟩ :: more else more

/-- The code points whose value satisfies `p`. -/
def members (p : String → Bool) (runs : List Run) : CodeSet :=
  .ofStretches (stretchesFrom p 0 runs)

/-- Reads decimal numbers that are set apart by blanks. -/
def numbersOfChars (current : Option Nat) : List Char → List Nat
  | [] => current.toList
  | c :: rest =>
    if c.isDigit then numbersOfChars (some (10 * current.getD 0 + (c.toNat - '0'.toNat))) rest
    else current.toList ++ numbersOfChars none rest

def numbersOfLines (lines : List String) : List Nat :=
  numbersOfChars none (" ".intercalate lines).toList

end Runs

end RelGraph.Unicode
