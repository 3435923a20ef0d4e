import RelGraph.Unicode.Property

/-! What version 17.0 of the character database adds to version 16.0, as far as names and quoted
texts ask for it. No other character changes its category. -/

namespace RelGraph.Unicode

/-- Code points in a row that version 17.0 puts into a category. -/
structure AddedRun where
  first : Nat
  last : Nat
  category : String

/-- The new characters, and one letter that is no longer a lowercase one. -/
def addedRuns : List AddedRun :=
  [⟨0x295, 0x295, "Lo"⟩, ⟨0x88f, 0x88f, "Lo"⟩, ⟨0xc5c, 0xc5c, "Lo"⟩, ⟨0xcdc, 0xcdc, "Lo"⟩,
   ⟨0x1acf, 0x1add, "Mn"⟩, ⟨0x1ae0, 0x1aeb, "Mn"⟩, ⟨0x20c1, 0x20c1, "Sc"⟩, ⟨0x2b96, 0x2b96, "So"⟩,
   ⟨0xa7ce, 0xa7ce, "Lu"⟩, ⟨0xa7cf, 0xa7cf, "Ll"⟩, ⟨0xa7d2, 0xa7d2, "Lu"⟩, ⟨0xa7d4, 0xa7d4, "Lu"⟩,
   ⟨0xa7f1, 0xa7f1, "Lm"⟩, ⟨0xfbc3, 0xfbd2, "So"⟩, ⟨0xfd90, 0xfd91, "So"⟩, ⟨0xfdc8, 0xfdce, "So"⟩,
   ⟨0x10940, 0x10959, "Lo"⟩, ⟨0x10ec5, 0x10ec5, "Lm"⟩, ⟨0x10ec6, 0x10ec7, "Lo"⟩,
   ⟨0x10ed0, 0x10ed0, "Po"⟩, ⟨0x10ed1, 0x10ed8, "So"⟩, ⟨0x10efa, 0x10efb, "Mn"⟩,
   ⟨0x11b60, 0x11b60, "Mn"⟩, ⟨0x11b61, 0x11b61, "Mc"⟩, ⟨0x11b62, 0x11b64, "Mn"⟩,
   ⟨0x11b65, 0x11b65, "Mc"⟩, ⟨0x11b66, 0x11b66, "Mn"⟩, ⟨0x11b67, 0x11b67, "Mc"⟩,
   ⟨0x11db0, 0x11dd8, "Lo"⟩, ⟨0x11dd9, 0x11dd9, "Lm"⟩, ⟨0x11dda, 0x11ddb, "Lo"⟩,
   ⟨0x11de0, 0x11de9, "Nd"⟩, ⟨0x16ea0, 0x16eb8, "Lu"⟩, ⟨0x16ebb, 0x16ed3, "Ll"⟩,
   ⟨0x16ff2, 0x16ff3, "Lm"⟩, ⟨0x16ff4, 0x16ff6, "Nl"⟩, ⟨0x187f8, 0x187ff, "Lo"⟩,
   ⟨0x18d09, 0x18d1e, "Lo"⟩, ⟨0x18d80, 0x18df2, "Lo"⟩, ⟨0x1ccfa, 0x1ccfc, "So"⟩,
   ⟨0x1ceba, 0x1ced0, "So"⟩, ⟨0x1cee0, 0x1ceef, "So"⟩, ⟨0x1cef0, 0x1cef0, "Sm"⟩,
   ⟨0x1e6c0, 0x1e6de, "Lo"⟩, ⟨0x1e6e0, 0x1e6e2, "Lo"⟩, ⟨0x1e6e3, 0x1e6e3, "Mn"⟩,
   ⟨0x1e6e4, 0x1e6e5, "Lo"⟩, ⟨0x1e6e6, 0x1e6e6, "Mn"⟩, ⟨0x1e6e7, 0x1e6ed, "Lo"⟩,
   ⟨0x1e6ee, 0x1e6ef, "Mn"⟩, ⟨0x1e6f0, 0x1e6f4, "Lo"⟩, ⟨0x1e6f5, 0x1e6f5, "Mn"⟩,
   ⟨0x1e6fe, 0x1e6fe, "Lo"⟩, ⟨0x1e6ff, 0x1e6ff, "Lm"⟩, ⟨0x1f6d8, 0x1f6d8, "So"⟩,
   ⟨0x1f777, 0x1f77a, "So"⟩, ⟨0x1f8d0, 0x1f8d8, "Sm"⟩, ⟨0x1fa54, 0x1fa57, "So"⟩,
   ⟨0x1fa8a, 0x1fa8a, "So"⟩, ⟨0x1fa8e, 0x1fa8e, "So"⟩, ⟨0x1fac8, 0x1fac8, "So"⟩,
   ⟨0x1facd, 0x1facd, "So"⟩, ⟨0x1faea, 0x1faea, "So"⟩, ⟨0x1faef, 0x1faef, "So"⟩,
   ⟨0x1fbfa, 0x1fbfa, "So"⟩, ⟨0x2b73a, 0x2b73f, "Lo"⟩, ⟨0x2cea2, 0x2cead, "Lo"⟩,
   ⟨0x323b0, 0x33479, "Lo"⟩]

/-- The new marks that count as alphabetic. -/
def addedAlphabeticMarks : CodeSet :=
  [⟨0x10efa, 0x10efb⟩, ⟨0x11b60, 0x11b67⟩, ⟨0x1e6e3, 0x1e6e3⟩, ⟨0x1e6e6, 0x1e6e6⟩,
   ⟨0x1e6ee, 0x1e6ef⟩, ⟨0x1e6f5, 0x1e6f5⟩]

/-- The general category in version 17.0. -/
def latestCategory (c : Char) : String :=
  match addedRuns.find? fun r => r.first ≤ c.toNat && c.toNat ≤ r.last with
  | some r => r.category
  | none => generalCategory c

/-- Letters, numerals made of letters, and what else counts as alphabetic. -/
def isAlphabetic (c : Char) : Bool :=
  let category := latestCategory c
  category.startsWith "L" || category == "Nl" || Base.otherAlphabetic.contains c.toNat
    || addedAlphabeticMarks.contains c.toNat

/-- Digits and numerals of any kind. -/
def isNumeric (c : Char) : Bool := (latestCategory c).startsWith "N"

/-- Characters that extend the grapheme before them. -/
def isGraphemeExtend (c : Char) : Bool :=
  let category := latestCategory c
  category == "Mn" || category == "Me" || Base.otherGraphemeExtend.contains c.toNat

end RelGraph.Unicode
