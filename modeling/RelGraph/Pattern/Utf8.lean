import RelGraph.Unicode.CodeSet

/-! Characters as bytes. The code points of a stretch are written in UTF-8 by few sequences of byte
ranges: a stretch is cut where the number of bytes changes and where the bytes after a common start
do not go through all their values. -/

namespace RelGraph.Pattern

open Unicode (CodeSet Stretch)

/-- The bytes of a code point. -/
def utf8Bytes (code : Nat) : List Nat :=
  if code < 0x80 then [code]
  else if code < 0x800 then [0xc0 + code / 64, 0x80 + code % 64]
  else if code < 0x10000 then [0xe0 + code / 4096, 0x80 + code / 64 % 64, 0x80 + code % 64]
  else
    [0xf0 + code / 262144, 0x80 + code / 4096 % 64, 0x80 + code / 64 % 64, 0x80 + code % 64]

/-- The bytes from `first` to `last`, both included. -/
structure ByteRange where
  first : Nat
  last : Nat
  deriving DecidableEq, Repr

/-- Byte ranges one after the other. -/
abbrev ByteSequence := List ByteRange

/-- Where a stretch is cut so that its start takes whole blocks of `block` code points, and then so
that its end does. -/
def blockCut? (s : Stretch) (block : Nat) : Option Nat :=
  if s.first / block = s.last / block then none
  else if s.first % block ≠ 0 then some (s.first / block * block + (block - 1))
  else if s.last % block ≠ block - 1 then some (s.last / block * block - 1)
  else none

/-- The last code point of the first part of a stretch that has no single sequence: before the
surrogates, at the end of the code points with the same number of bytes, or at the end of a block.
-/
def cut? (s : Stretch) : Option Nat :=
  if s.first ≤ 0xd7ff && 0xd7ff < s.last then some 0xd7ff
  else
    match [0x7f, 0x7ff, 0xffff].find? fun last => s.first ≤ last && last < s.last with
    | some last => some last
    | none => if s.last < 0x80 then none else [64, 4096, 262144].findSome? (blockCut? s)

/-- The sequences that write the code points of a stretch, in ascending order. -/
def byteSequences (s : Stretch) : List ByteSequence :=
  match cut? s with
  | some last =>
    if s.first ≤ last ∧ last < s.last then
      byteSequences ⟨s.first, last⟩ ++ byteSequences ⟨Unicode.following last, s.last⟩
    else []
  | none => [List.zipWith ByteRange.mk (utf8Bytes s.first) (utf8Bytes s.last)]
termination_by s.last + 1 - s.first
decreasing_by
  · omega
  · simp only [Unicode.following]
    split <;> omega

end RelGraph.Pattern
