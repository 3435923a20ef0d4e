import RelGraph.Proofs.Json
import RelGraph.Proofs.Json.Numbers
import RelGraph.Proofs.Json.Strings

/-! Values and their indented texts. A value with whole numbers only is read back from its text at
any level of indentation and with anything after it that does not go on as a number. Its
fuel has to be more than twice the length of the text, and its room the depth of the value. -/

namespace RelGraph.Json

namespace Reader

variable {fuel room level : Nat} {cs rest tail : List Char} {d : Datum}

/-! ### Blanks -/

theorem skipSpace_newline (level : Nat) (cs : List Char) :
    skipSpace (newline level ++ cs) = skipSpace cs := by
  have hblank : ∀ c ∈ newline level, isSpace c = true := by
    intro c hc
    rcases List.mem_cons.1 hc with rfl | hc
    · rfl
    · rw [List.eq_of_mem_replicate hc]
      rfl
  rw [skipSpace, List.dropWhile_append_of_pos hblank, ← skipSpace]

theorem skipSpace_cons {c : Char} (h : isSpace c = false) : skipSpace (c :: cs) = c :: cs := by
  simp [skipSpace, h]

/-- Blanks before a value make no difference. -/
theorem value?_congr {ds : List Char} (h : skipSpace cs = skipSpace ds) :
    value? fuel room cs = value? fuel room ds := by
  cases fuel with
  | zero => rfl
  | succ fuel => rw [value?, value?, h]

theorem items?_newline : items? fuel room (newline level ++ cs) = items? fuel room cs := by
  cases fuel with
  | zero => rfl
  | succ fuel => rw [items?, items?, value?_congr (skipSpace_newline level cs)]

theorem entries?_newline : entries? fuel room (newline level ++ cs) = entries? fuel room cs := by
  cases fuel with
  | zero => rfl
  | succ fuel => rw [entries?, entries?, skipSpace_newline]

theorem endsNumber_newline (level : Nat) (cs : List Char) : EndsNumber (newline level ++ cs) := by
  refine ⟨rfl, ?_, ?_, ?_⟩ <;> decide

theorem endsNumber_comma (cs : List Char) : EndsNumber (',' :: cs) := by
  refine ⟨rfl, ?_, ?_, ?_⟩ <;> decide

/-! ### Items and members, one at a time -/

/-- An item before the closing bracket. -/
theorem items?_last (hd : value? fuel room cs = some (d, rest))
    (hrest : skipSpace rest = ']' :: tail) : items? (fuel + 1) room cs = some ([d], tail) := by
  rw [items?, hd]
  simp [hrest]

/-- An item before a comma. -/
theorem items?_next {more : List Datum} (hd : value? fuel room cs = some (d, ',' :: rest))
    (hmore : items? fuel room rest = some (more, tail)) :
    items? (fuel + 1) room cs = some (d :: more, tail) := by
  have hcomma : skipSpace (',' :: rest) = ',' :: rest := skipSpace_cons rfl
  rw [items?, hd]
  simp [hcomma, hmore]

/-- The key of a member, with its quotes and the colon. -/
def keyChars (k : String) : List Char := quote k ++ [':', ' ']

theorem keyChars_append (k : String) (cs : List Char) :
    keyChars k ++ cs = '"' :: (k.toList.flatMap escape ++ '"' :: ':' :: ' ' :: cs) := by
  simp [keyChars, quote]

theorem value?_space : value? fuel room (' ' :: cs) = value? fuel room cs :=
  value?_congr (by simp [skipSpace, isSpace])

/-- A member before the closing brace. -/
theorem entries?_last {k : String} (hd : value? fuel room cs = some (d, rest))
    (hrest : skipSpace rest = '\x7d' :: tail) :
    entries? (fuel + 1) room (keyChars k ++ cs) = some ([(k, d)], true, tail) := by
  rw [keyChars_append, entries?, skipSpace_cons rfl]
  simp [string?_quoted, skipSpace_cons, isSpace, value?_space, hd, hrest]

/-- A member before a comma. -/
theorem entries?_next {k : String} {more : List (String × Datum)}
    (hd : value? fuel room cs = some (d, ',' :: rest))
    (hmore : entries? fuel room rest = some (more, true, tail)) :
    entries? (fuel + 1) room (keyChars k ++ cs) = some ((k, d) :: more, true, tail) := by
  have hcomma : skipSpace (',' :: rest) = ',' :: rest := skipSpace_cons rfl
  rw [keyChars_append, entries?, skipSpace_cons rfl]
  simp [string?_quoted, skipSpace_cons, isSpace, value?_space, hd, hcomma, hmore]

/-! ### Values by their first character -/

theorem within_of_pos (h : 0 < room) (d : Datum) : within room d = d := by
  have hne : room ≠ 0 := by omega
  simp [within, hne]

theorem value?_string (s : String) :
    value? (fuel + 1) room (quote s ++ rest) = some (.str s, rest) := by
  have hquote : quote s ++ rest = '"' :: (s.toList.flatMap escape ++ '"' :: rest) := by
    simp [quote]
  rw [hquote, value?, skipSpace_cons rfl]
  simp [string?_quoted]

theorem value?_items {c : Char} {items : List Datum} (hroom : 0 < room)
    (hcs : skipSpace cs = c :: rest) (hc : c ≠ ']')
    (hitems : items? fuel (room - 1) (c :: rest) = some (items, tail)) :
    value? (fuel + 1) room ('[' :: cs) = some (.list items, tail) := by
  rw [value?, skipSpace_cons rfl]
  simp [hcs, hc, hitems, within_of_pos hroom]

theorem value?_entries {c : Char} {entries : List (String × Datum)} (hroom : 0 < room)
    (hcs : skipSpace cs = c :: rest) (hc : c ≠ '\x7d')
    (hentries : entries? fuel (room - 1) (c :: rest) = some (entries, true, tail)) :
    value? (fuel + 1) room ('\x7b' :: cs) = some (.table entries, tail) := by
  rw [value?, skipSpace_cons rfl]
  simp [hcs, hc, hentries, within_of_pos hroom]

/-- What starts a number starts nothing else. -/
theorem ne_of_startsNumber {c e : Char} (hc : c = '-' ∨ c.isDigit = true)
    (he : e ≠ '-' ∧ e.isDigit = false) : c ≠ e := by
  rintro rfl
  rcases hc with rfl | hc
  · exact he.1 rfl
  · rw [he.2] at hc
    cases hc

theorem isSpace_of_startsNumber {c : Char} (hc : c = '-' ∨ c.isDigit = true) :
    isSpace c = false := by
  have hspace : c ≠ ' ' := ne_of_startsNumber hc (by decide)
  have hbreak : c ≠ '\n' := ne_of_startsNumber hc (by decide)
  have htab : c ≠ '\t' := ne_of_startsNumber hc (by decide)
  have hreturn : c ≠ '\r' := ne_of_startsNumber hc (by decide)
  simp [isSpace, hspace, hbreak, htab, hreturn]

theorem value?_intText {n : Int} (hn : isWritable n = true) (hrest : EndsNumber rest) :
    value? (fuel + 1) room (intText n ++ rest) = some (Datum.ofJson (.int n), rest) := by
  obtain ⟨c, cs, hcs, hc⟩ := exists_intText_eq n
  have hskip : skipSpace (intText n ++ rest) = intText n ++ rest := by
    rw [hcs]
    exact skipSpace_cons (isSpace_of_startsNumber hc)
  have hother : ∀ e tail, e ≠ '-' ∧ e.isDigit = false → intText n ++ rest ≠ e :: tail := by
    intro e tail he heq
    rw [hcs, List.cons_append, List.cons.injEq] at heq
    exact ne_of_startsNumber hc he heq.1
  rw [value?, hskip]
  -- all cases but the last, which reads a number, ask for another first character
  split
  case h_7 => simp [lexeme?_intText n hrest, datum_intText hn]
  all_goals
    next heq => exact absurd heq (hother _ _ (by decide))

end Reader

open Reader

variable {room : Nat}

/-! ### Whole texts -/

/-- The reader finds the value in its text, whatever follows the text. -/
def ReadBack (j : Json) : Prop :=
  ∀ level fuel room rest, 2 * (j.prettyChars level).length < fuel → j.depth ≤ room →
    EndsNumber rest → value? fuel room (j.prettyChars level ++ rest) = some (Datum.ofJson j, rest)

/-- One step of fuel is for the value itself, and two for each of its characters are enough. -/
theorem ReadBack.of_succ {j : Json}
    (h : ∀ level fuel room rest, 2 * (j.prettyChars level).length ≤ fuel → j.depth ≤ room →
      EndsNumber rest →
        value? (fuel + 1) room (j.prettyChars level ++ rest) = some (Datum.ofJson j, rest)) :
    ReadBack j := by
  intro level fuel room rest hfuel hdepth hrest
  obtain ⟨fuel, rfl⟩ := Nat.exists_eq_succ_of_ne_zero (Nat.ne_zero_of_lt hfuel)
  exact h level fuel room rest (Nat.le_of_lt_succ hfuel) hdepth hrest

/-- No value starts with a blank or with a closing bracket. -/
theorem exists_prettyChars_eq (level : Nat) {j : Json} (h : Whole j) :
    ∃ c cs, j.prettyChars level = c :: cs ∧ isSpace c = false ∧ c ≠ ']' := by
  cases h with
  | null => exact ⟨'n', _, rfl, by decide⟩
  | bool b =>
    cases b with
    | false => exact ⟨'f', _, rfl, by decide⟩
    | true => exact ⟨'t', _, rfl, by decide⟩
  | @int n h =>
    obtain ⟨c, cs, hcs, hc⟩ := exists_intText_eq n
    exact ⟨c, cs, hcs, isSpace_of_startsNumber hc, ne_of_startsNumber hc (by decide)⟩
  | str s => exact ⟨'"', _, rfl, by decide⟩
  | @arr items h => cases items <;> exact ⟨'[', _, rfl, by decide⟩
  | @obj members h => cases members <;> exact ⟨'\x7b', _, rfl, by decide⟩

theorem prettyChars_arr_append (level : Nat) (j : Json) (items : List Json) (rest : List Char) :
    (arr (j :: items)).prettyChars level ++ rest = '[' :: (newline (level + 1) ++
      (j.prettyChars (level + 1) ++ (prettyChars.elements level items ++
        (newline level ++ ']' :: rest)))) := by
  simp [prettyChars]

theorem prettyChars_obj_append (level : Nat) (m : String × Json) (members : List (String × Json))
    (rest : List Char) :
    (obj (m :: members)).prettyChars level ++ rest = '\x7b' :: (newline (level + 1) ++
      (keyChars m.1 ++ (m.2.prettyChars (level + 1) ++ (prettyChars.fields level members ++
        (newline level ++ '\x7d' :: rest))))) := by
  simp [prettyChars, keyChars]

theorem items?_elements (level fuel : Nat) (tail : List Char) {j : Json} {items : List Json}
    (hread : ∀ i ∈ j :: items, ReadBack i)
    (hdepth : ∀ i ∈ j :: items, i.depth ≤ room)
    (hfuel : 2 * ((j.prettyChars (level + 1)).length +
      (prettyChars.elements level items).length) + 1 < fuel) :
    items? fuel room (j.prettyChars (level + 1) ++ (prettyChars.elements level items ++
      (newline level ++ ']' :: tail))) = some (Datum.ofJson.ofItems (j :: items), tail) := by
  induction items generalizing j fuel with
  | nil =>
    obtain ⟨fuel, rfl⟩ := Nat.exists_eq_succ_of_ne_zero (Nat.ne_zero_of_lt hfuel)
    have hj := hread j List.mem_cons_self (level + 1) fuel room _ (by omega)
      (hdepth j List.mem_cons_self) (endsNumber_newline level (']' :: tail))
    exact items?_last hj (by rw [skipSpace_newline, skipSpace_cons rfl])
  | cons i items ih =>
    obtain ⟨fuel, rfl⟩ := Nat.exists_eq_succ_of_ne_zero (Nat.ne_zero_of_lt hfuel)
    rw [prettyChars.elements] at hfuel ⊢
    simp only [List.length_cons, List.length_append] at hfuel
    rw [List.cons_append]
    refine items?_next (hread j List.mem_cons_self (level + 1) fuel room _ (by omega)
      (hdepth j List.mem_cons_self) (endsNumber_comma _)) ?_
    rw [List.append_assoc, List.append_assoc, items?_newline]
    exact ih fuel (List.forall_mem_cons.1 hread).2 (List.forall_mem_cons.1 hdepth).2 (by omega)

theorem fields_cons (level : Nat) (m : String × Json) (members : List (String × Json)) :
    prettyChars.fields level (m :: members) = ',' :: (newline (level + 1) ++ (keyChars m.1 ++
      (m.2.prettyChars (level + 1) ++ prettyChars.fields level members))) := by
  rw [prettyChars.fields]
  simp [keyChars]

theorem entries?_fields (level fuel : Nat) (tail : List Char) {m : String × Json}
    {members : List (String × Json)}
    (hread : ∀ i ∈ m :: members, ReadBack i.2) (hdepth : ∀ i ∈ m :: members, i.2.depth ≤ room)
    (hfuel : 2 * ((m.2.prettyChars (level + 1)).length +
      (prettyChars.fields level members).length) + 1 < fuel) :
    entries? fuel room (keyChars m.1 ++ (m.2.prettyChars (level + 1) ++
      (prettyChars.fields level members ++ (newline level ++ '\x7d' :: tail)))) =
        some (Datum.ofJson.ofMembers (m :: members), true, tail) := by
  induction members generalizing m fuel with
  | nil =>
    obtain ⟨fuel, rfl⟩ := Nat.exists_eq_succ_of_ne_zero (Nat.ne_zero_of_lt hfuel)
    have hm := hread m List.mem_cons_self (level + 1) fuel room _ (by omega)
      (hdepth m List.mem_cons_self) (endsNumber_newline level ('\x7d' :: tail))
    exact entries?_last hm (by rw [skipSpace_newline, skipSpace_cons rfl])
  | cons i members ih =>
    obtain ⟨fuel, rfl⟩ := Nat.exists_eq_succ_of_ne_zero (Nat.ne_zero_of_lt hfuel)
    rw [fields_cons] at hfuel ⊢
    simp only [List.length_cons, List.length_append] at hfuel
    rw [List.cons_append]
    refine entries?_next (hread m List.mem_cons_self (level + 1) fuel room _ (by omega)
      (hdepth m List.mem_cons_self) (endsNumber_comma _)) ?_
    rw [List.append_assoc, List.append_assoc, List.append_assoc, entries?_newline]
    exact ih fuel (List.forall_mem_cons.1 hread).2 (List.forall_mem_cons.1 hdepth).2 (by omega)

/-- Every value with whole numbers only is found in its text. -/
theorem Whole.readBack {j : Json} (h : Whole j) : ReadBack j := by
  induction h with
  | null => exact .of_succ fun _ _ _ _ _ _ _ => rfl
  | bool b => cases b <;> exact .of_succ fun _ _ _ _ _ _ _ => rfl
  | int hn => exact .of_succ fun _ _ _ _ _ _ hrest => value?_intText hn hrest
  | str s => exact .of_succ fun _ _ _ _ _ _ _ => value?_string s
  | @arr items hitems ih =>
    refine .of_succ fun level fuel room rest hfuel hdepth _ => ?_
    obtain ⟨hroom, hdeep⟩ := depth_arr_le_iff.1 hdepth
    cases items with
    | nil =>
      rw [prettyChars, List.cons_append, value?]
      simp [skipSpace, isSpace, within_of_pos hroom, Datum.ofJson, Datum.ofJson.ofItems]
    | cons j items =>
      -- the reader tells an empty array by what follows its bracket, so the first item must not
      -- start with the closing bracket
      obtain ⟨c, cs, hcs, hspace, hc⟩ :=
        exists_prettyChars_eq (level + 1) (hitems j List.mem_cons_self)
      simp only [prettyChars, List.length_cons, List.length_append] at hfuel
      have hread := items?_elements level fuel rest ih hdeep (by omega)
      rw [prettyChars_arr_append]
      rw [hcs] at hread ⊢
      refine value?_items hroom ?_ hc hread
      rw [skipSpace_newline]
      exact skipSpace_cons hspace
  | @obj members hmembers ih =>
    refine .of_succ fun level fuel room rest hfuel hdepth _ => ?_
    obtain ⟨hroom, hdeep⟩ := depth_obj_le_iff.1 hdepth
    cases members with
    | nil =>
      rw [prettyChars, List.cons_append, value?]
      simp [skipSpace, isSpace, within_of_pos hroom, Datum.ofJson, Datum.ofJson.ofMembers]
    | cons m members =>
      simp only [prettyChars, List.length_cons, List.length_append] at hfuel
      have hread := entries?_fields level fuel rest ih hdeep (by omega)
      rw [prettyChars_obj_append]
      rw [keyChars_append] at hread ⊢
      refine value?_entries hroom ?_ (by decide) hread
      rw [skipSpace_newline]
      exact skipSpace_cons rfl

/-- A text is read as the value that it was written from, up to the greatest depth. -/
theorem read?_pretty {j : Json} (h : Whole j) (hdepth : j.depth ≤ depthLimit) :
    read? j.pretty = some (Datum.ofJson j) := by
  have hread := h.readBack 0 (2 * (j.prettyChars 0).length + 1) depthLimit [] (by omega) hdepth
    trivial
  rw [List.append_nil] at hread
  rw [read?, pretty, String.toList_ofList, readChars?, hread]
  rfl

end RelGraph.Json
