import Mathlib.Tactic.SplitIfs
import RelGraph.Json.Printer
import RelGraph.Json.Reader

/-! Strings between quotes. Every character is written so that the reader takes it for itself: the
quote, the backslash and the control characters are escaped, and all others stand as they are. So a
quoted string is read back up to its closing quote, whatever follows. -/

namespace RelGraph

namespace Text

theorem hexValue?_hexDigit {n : Nat} (h : n < 16) : hexValue? (hexDigit n) = some n := by
  decide +revert

/-- Two hexadecimal digits are enough for a control code. -/
theorem number?_hexDigits {n : Nat} (h : n < 32) :
    number? hexValue? 16 ['0', '0', hexDigit (n / 16), hexDigit (n % 16)] = some n := by
  have hhigh : hexValue? (hexDigit (n / 16)) = some (n / 16) := hexValue?_hexDigit (by omega)
  have hlow : hexValue? (hexDigit (n % 16)) = some (n % 16) := hexValue?_hexDigit (by omega)
  have hzero : hexValue? '0' = some 0 := rfl
  simp only [number?, List.foldlM_cons, List.foldlM_nil, hzero, hhigh, hlow, Option.pure_def,
    Option.bind_eq_bind, Option.bind_some, Option.some.injEq]
  omega

end Text

namespace Json.Reader

theorem ofCode_toNat {c : Char} (h : c.toNat < 32) : Piece.ofCode c.toNat = .char c := by
  have hlow : ¬0xd800 ≤ c.toNat := by omega
  have hhigh : ¬0xdc00 ≤ c.toNat := by omega
  simp [Piece.ofCode, hlow, hhigh]

variable {c : Char} {rest tail : List Char} {ps : List Piece}

/-! ### One character -/

/-- A character that needs no escape stands for itself. -/
theorem pieces?_plain (hquote : c ≠ '"') (hslash : c ≠ '\\') (hcontrol : ¬c.toNat < 32)
    (h : pieces? rest = some (ps, tail)) : pieces? (c :: rest) = some (.char c :: ps, tail) := by
  rw [pieces?]
  · simp [hcontrol, hslash, h]
  all_goals simp_all

/-- A letter after a backslash stands for the character that it names. -/
theorem pieces?_letter {e : Char} (hcode : e ≠ 'u') (he : unescape? e = some c)
    (h : pieces? rest = some (ps, tail)) :
    pieces? ('\\' :: e :: rest) = some (.char c :: ps, tail) := by
  rw [pieces?]
  · simp [he, h]
  all_goals simp_all

/-- A control character is written by its code. -/
theorem pieces?_code (hcontrol : c.toNat < 32) (h : pieces? rest = some (ps, tail)) :
    pieces? ('\\' :: 'u' :: '0' :: '0' :: Text.hexDigit (c.toNat / 16) ::
      Text.hexDigit (c.toNat % 16) :: rest) = some (.char c :: ps, tail) := by
  rw [pieces?, Text.number?_hexDigits hcontrol]
  simp [ofCode_toNat hcontrol, h]

/-- A character is escaped by a letter that names it, or by its code, or not at all. -/
theorem escape_cases (c : Char) :
    (∃ e, e ≠ 'u' ∧ unescape? e = some c ∧ escape c = ['\\', e]) ∨
    (c.toNat < 32 ∧ escape c = ['\\', 'u', '0', '0', Text.hexDigit (c.toNat / 16),
      Text.hexDigit (c.toNat % 16)]) ∨
    (c ≠ '"' ∧ c ≠ '\\' ∧ ¬c.toNat < 32 ∧ escape c = [c]) := by
  unfold escape
  split_ifs with hquote hslash hn ht hr hb hf hcontrol
  · exact .inl ⟨'"', by decide, congrArg some (eq_of_beq hquote).symm, rfl⟩
  · exact .inl ⟨'\\', by decide, congrArg some (eq_of_beq hslash).symm, rfl⟩
  · exact .inl ⟨'n', by decide, congrArg some (eq_of_beq hn).symm, rfl⟩
  · exact .inl ⟨'t', by decide, congrArg some (eq_of_beq ht).symm, rfl⟩
  · exact .inl ⟨'r', by decide, congrArg some (eq_of_beq hr).symm, rfl⟩
  · exact .inl ⟨'b', by decide, congrArg some (eq_of_beq hb).symm, rfl⟩
  · exact .inl ⟨'f', by decide, congrArg some (eq_of_beq hf).symm, rfl⟩
  · exact .inr (.inl ⟨hcontrol, rfl⟩)
  · exact .inr (.inr ⟨by simpa using hquote, by simpa using hslash, hcontrol, rfl⟩)

theorem pieces?_escape (c : Char) (h : pieces? rest = some (ps, tail)) :
    pieces? (escape c ++ rest) = some (.char c :: ps, tail) := by
  rcases escape_cases c with ⟨e, hcode, he, heq⟩ | ⟨hcontrol, heq⟩ | ⟨hquote, hslash, hplain, heq⟩
  · rw [heq]
    exact pieces?_letter hcode he h
  · rw [heq]
    exact pieces?_code hcontrol h
  · rw [heq]
    exact pieces?_plain hquote hslash hplain h

/-! ### Whole strings -/

theorem pieces?_flatMap_escape (cs rest : List Char) :
    pieces? (cs.flatMap escape ++ '"' :: rest) = some (cs.map .char, rest) := by
  induction cs with
  | nil => rw [List.flatMap_nil, List.nil_append, pieces?, List.map_nil]
  | cons c cs ih =>
    rw [List.flatMap_cons, List.append_assoc]
    exact pieces?_escape c ih

theorem assemble?_map_char (cs : List Char) : assemble? (cs.map .char) = some cs := by
  induction cs with
  | nil => rfl
  | cons c cs ih => rw [List.map_cons, assemble?, ih]; rfl

/-- A string is read back from its quoted form, and nothing after the closing quote is touched. -/
theorem string?_quoted (s : String) (rest : List Char) :
    string? (s.toList.flatMap escape ++ '"' :: rest) = some (some s, rest) := by
  rw [string?, pieces?_flatMap_escape]
  simp [assemble?_map_char]

end Json.Reader

end RelGraph
