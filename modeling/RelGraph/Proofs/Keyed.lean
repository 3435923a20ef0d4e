import Mathlib.Data.List.Nodup
import Mathlib.Tactic.Tauto
import RelGraph.Keyed

/-! Looking entries up by their keys. A key belongs to at most one entry of a listing or an
ascending list, so looking it up finds that entry, and adding entries adds their keys. -/

namespace RelGraph

variable {α : Type} {key : α → String}

theorem find?_key_cons (key : α → String) (a : α) (l : List α) (k : String) :
    (a :: l).find? (key · == k) = if key a = k then some a else l.find? (key · == k) := by
  rw [List.find?_cons]
  by_cases hk : key a = k
  · rw [if_pos hk, beq_iff_eq.2 hk]
  · rw [if_neg hk, beq_eq_false_iff_ne.2 hk]

/-! ### Listings -/

namespace Listing

theorem eq_of_key_eq {l : Listing key} {a b : α} (ha : a ∈ l.entries) (hb : b ∈ l.entries)
    (h : key a = key b) : a = b :=
  List.inj_on_of_nodup_map l.nodup ha hb h

theorem find?_eq_some_iff {l : Listing key} {k : String} {a : α} :
    l.find? k = some a ↔ a ∈ l.entries ∧ key a = k := by
  constructor
  · intro h
    exact ⟨List.mem_of_find?_eq_some h, by simpa using List.find?_some h⟩
  · rintro ⟨ha, rfl⟩
    cases h : l.find? (key a) with
    | none => exact absurd (List.find?_eq_none.1 h a ha) (by simp)
    | some b =>
      have hkey : key b = key a := by simpa using List.find?_some h
      rw [eq_of_key_eq (List.mem_of_find?_eq_some h) ha hkey]

theorem find?_eq_none_iff {l : Listing key} {k : String} : l.find? k = none ↔ k ∉ l.keys := by
  simp [find?, keys]

theorem contains_iff {l : Listing key} {k : String} : l.contains k = true ↔ k ∈ l.keys := by
  simp [contains, keys]

theorem contains_eq_isSome_find? (l : Listing key) (k : String) :
    l.contains k = (l.find? k).isSome := by
  rw [contains, find?, List.isSome_find?]

theorem entries_add (l : Listing key) (a : α) :
    (l.add a).entries = if key a ∈ l.keys then l.entries else l.entries ++ [a] := by
  rw [add]
  split
  · next h => rw [if_pos (contains_iff.1 h)]
  · next h => rw [if_neg (fun hk => h (contains_iff.2 hk))]

theorem keys_add (l : Listing key) (a : α) :
    (l.add a).keys = if key a ∈ l.keys then l.keys else l.keys ++ [key a] := by
  rw [keys, entries_add]
  split <;> simp [keys]

theorem mem_keys_add {l : Listing key} {a : α} {k : String} :
    k ∈ (l.add a).keys ↔ k ∈ l.keys ∨ k = key a := by
  rw [keys_add]
  split
  · next h => exact ⟨.inl, fun hk => hk.elim id (fun e => e ▸ h)⟩
  · simp

theorem mem_of_mem_foldl_add {l : Listing key} {m : List α} {a : α}
    (h : a ∈ (m.foldl add l).entries) : a ∈ l.entries ∨ a ∈ m := by
  induction m generalizing l with
  | nil => exact .inl h
  | cons b rest ih =>
    rcases ih h with h | h
    · rw [entries_add] at h
      split at h
      · exact .inl h
      · rcases List.mem_append.1 h with h | h
        · exact .inl h
        · exact .inr (by simp_all)
    · exact .inr (by simp [h])

theorem mem_keys_foldl_add {l : Listing key} {m : List α} {k : String} :
    k ∈ (m.foldl add l).keys ↔ k ∈ l.keys ∨ k ∈ m.map key := by
  induction m generalizing l with
  | nil => simp
  | cons a rest ih => rw [List.foldl_cons, ih, mem_keys_add, List.map_cons, List.mem_cons, or_assoc]

theorem mem_keys_ofList {m : List α} {k : String} :
    k ∈ (ofList m : Listing key).keys ↔ k ∈ m.map key := by
  rw [ofList, mem_keys_foldl_add]
  simp [keys, empty]

/-- Entries whose keys are new and distinct are all added. -/
theorem entries_foldl_add {l : Listing key} {m : List α} (hnodup : (m.map key).Nodup)
    (hnew : ∀ a ∈ m, key a ∉ l.keys) : (m.foldl add l).entries = l.entries ++ m := by
  induction m generalizing l with
  | nil => simp
  | cons a rest ih =>
    obtain ⟨ha, hrest⟩ := List.nodup_cons.1 hnodup
    rw [List.foldl_cons, ih hrest, entries_add, if_neg (hnew a (by simp)), List.append_assoc]
    · rfl
    · intro b hb hk
      rcases mem_keys_add.1 hk with hk | hk
      · exact hnew b (by simp [hb]) hk
      · exact ha (List.mem_map.2 ⟨b, hb, hk⟩)

theorem entries_ofList {m : List α} (hnodup : (m.map key).Nodup) :
    (ofList m : Listing key).entries = m := by
  rw [ofList, entries_foldl_add hnodup (by simp [keys, empty])]
  rfl

/-- An entry that is added is found under its key when no other one was. -/
theorem find?_add (l : Listing key) (a : α) (k : String) :
    (l.add a).find? k = (l.find? k).or (if key a = k then some a else none) := by
  rw [find?, entries_add]
  split
  · next hkey =>
    by_cases hk : key a = k
    · have hsome : (l.find? k).isSome = true := by
        rw [← contains_eq_isSome_find?, contains_iff, ← hk]
        exact hkey
      rw [Option.or_of_isSome hsome, find?]
    · rw [if_neg hk, Option.or_none, find?]
  · rw [List.find?_append, find?_key_cons, List.find?_nil, find?]

/-- Of several entries that are added the first with a key is found under it. -/
theorem find?_foldl_add (l : Listing key) (m : List α) (k : String) :
    (m.foldl add l).find? k = (l.find? k).or (m.find? (key · == k)) := by
  induction m generalizing l with
  | nil => rw [List.foldl_nil, List.find?_nil, Option.or_none]
  | cons a rest ih =>
    rw [List.foldl_cons, ih, find?_add, Option.or_assoc, find?_key_cons]
    by_cases hk : key a = k
    · rw [if_pos hk, if_pos hk, Option.some_or]
    · rw [if_neg hk, if_neg hk, Option.none_or]

theorem find?_ofList (m : List α) (k : String) :
    (ofList m : Listing key).find? k = m.find? (key · == k) :=
  find?_foldl_add empty m k

/-- Of the entries that are added stay those with new keys, of several with one key the first. -/
theorem entries_foldl_add_eq (l : Listing key) (m : List α) :
    (m.foldl add l).entries =
      l.entries ++ (m.filter (key · ∉ l.keys)).eraseDupsBy fun a b => key a == key b := by
  induction m generalizing l with
  | nil => rw [List.foldl_nil, List.filter_nil, List.eraseDupsBy_nil, List.append_nil]
  | cons a rest ih =>
    rw [List.foldl_cons, ih, entries_add, keys_add]
    by_cases ha : key a ∈ l.keys
    · rw [if_pos ha, if_pos ha, List.filter_cons_of_neg (by simpa using ha)]
    · -- those that are new after `a` are the new ones that do not have its key
      have hrest : rest.filter (key · ∉ l.keys ++ [key a]) =
          (rest.filter (key · ∉ l.keys)).filter fun b => decide ((key b == key a) = false) := by
        rw [List.filter_filter]
        refine List.filter_congr fun b _ => ?_
        simp [not_or, and_comm]
      rw [if_neg ha, if_neg ha, List.filter_cons_of_pos (by simpa using ha), List.eraseDupsBy_cons,
        hrest, List.append_assoc, List.singleton_append]

theorem entries_ofList_eq (m : List α) :
    (ofList m : Listing key).entries = m.eraseDupsBy fun a b => key a == key b := by
  have hnew : m.filter (key · ∉ (empty : Listing key).keys) = m :=
    List.filter_eq_self.2 fun _ _ => rfl
  rw [ofList, entries_foldl_add_eq, hnew]
  rfl

/-- The order of the entries does not matter to looking one up. -/
theorem find?_eq_of_perm {l m : Listing key} (h : l.entries.Perm m.entries) (k : String) :
    l.find? k = m.find? k := by
  refine Option.ext fun a => ?_
  rw [find?_eq_some_iff, find?_eq_some_iff, h.mem_iff]

end Listing

/-! ### Ascending lists -/

namespace Ascending

theorem contains_iff {s : Ascending key} {k : String} : s.contains k = true ↔ k ∈ s.keys := by
  simp [contains, keys]

theorem isSome_find?_iff {s : Ascending key} {k : String} :
    (s.find? k).isSome = true ↔ k ∈ s.keys := by
  simp [find?, keys]

theorem contains_eq_isSome_find? (s : Ascending key) (k : String) :
    s.contains k = (s.find? k).isSome := by
  rw [contains, find?, List.isSome_find?]

theorem nodup_keys (s : Ascending key) : s.keys.Nodup := (Listing.ofAscending s).nodup

theorem find?_eq_some_iff {s : Ascending key} {k : String} {a : α} :
    s.find? k = some a ↔ a ∈ s.entries ∧ key a = k :=
  Listing.find?_eq_some_iff (l := Listing.ofAscending s)

theorem mem_map_insertEntry {a : α} {l : List α} {k : String} :
    k ∈ (insertEntry key a l).map key ↔ k = key a ∨ k ∈ l.map key := by
  induction l with
  | nil => simp [insertEntry]
  | cons b rest ih =>
    rw [insertEntry]
    split
    · simp
    · split
      · next h => simp [h]
      · rw [List.map_cons, List.mem_cons, ih, List.map_cons, List.mem_cons, or_left_comm]

theorem mem_keys_insertMany {s : Ascending key} {l : List α} {k : String} :
    k ∈ (s.insertMany l).keys ↔ k ∈ s.keys ∨ k ∈ l.map key := by
  induction l generalizing s with
  | nil => simp [insertMany]
  | cons a rest ih =>
    rw [insertMany, List.foldl_cons, ← insertMany, ih, keys, insert, mem_map_insertEntry, ← keys,
      List.map_cons, List.mem_cons]
    tauto

theorem mem_keys_ofList {l : List α} {k : String} :
    k ∈ (ofList l : Ascending key).keys ↔ k ∈ l.map key := by
  rw [ofList, mem_keys_insertMany]
  simp [keys, empty]

/-- An entry that is put at the place of its key is found under it. -/
theorem find?_insertEntry (a : α) (l : List α) (k : String) :
    (insertEntry key a l).find? (key · == k) =
      if key a = k then some a else l.find? (key · == k) := by
  induction l with
  | nil => rw [insertEntry, find?_key_cons]
  | cons b rest ih =>
    rw [insertEntry]
    split
    · rw [find?_key_cons]
    · split
      · next hab =>
        rw [find?_key_cons, find?_key_cons, hab]
        split <;> rfl
      · next hne =>
        rw [find?_key_cons, ih, find?_key_cons]
        by_cases hb : key b = k
        · have ha : key a ≠ k := fun ha => hne (ha.trans hb.symm)
          rw [if_pos hb, if_neg ha, if_pos hb]
        · rw [if_neg hb, if_neg hb]

theorem find?_insert (s : Ascending key) (a : α) (k : String) :
    (s.insert a).find? k = if key a = k then some a else s.find? k :=
  find?_insertEntry a s.entries k

/-- Of several entries that are added the last with a key is found under it. -/
theorem find?_insertMany (s : Ascending key) (l : List α) (k : String) :
    (s.insertMany l).find? k = (l.findRev? (key · == k)).or (s.find? k) := by
  rw [List.findRev?_eq_find?_reverse]
  induction l generalizing s with
  | nil => rfl
  | cons a rest ih =>
    rw [insertMany, List.foldl_cons, ← insertMany, ih, find?_insert, List.reverse_cons,
      List.find?_append, find?_key_cons, List.find?_nil, Option.or_assoc]
    by_cases hk : key a = k
    · rw [if_pos hk, if_pos hk, Option.some_or]
    · rw [if_neg hk, if_neg hk, Option.none_or]

theorem find?_ofList (l : List α) (k : String) :
    (ofList l : Ascending key).find? k = l.findRev? (key · == k) := by
  rw [ofList, find?_insertMany]
  exact Option.or_none

theorem mem_of_mem_ofList {l : List α} {a : α} (h : a ∈ (ofList l : Ascending key).entries) :
    a ∈ l := by
  have hfind := find?_eq_some_iff.2 ⟨h, rfl⟩
  rw [find?_ofList, List.findRev?_eq_find?_reverse] at hfind
  exact List.mem_reverse.1 (List.mem_of_find?_eq_some hfind)

/-- What a selection by keys leaves under a key. -/
theorem find?_filter {p : α → Bool} {q : String → Bool} (hp : ∀ a, p a = q (key a))
    (s : Ascending key) (k : String) :
    (s.filter p).find? k = if q k then s.find? k else none := by
  refine Option.ext fun a => ?_
  rw [find?_eq_some_iff, filter, List.mem_filter, hp]
  split
  · next hq =>
    rw [find?_eq_some_iff]
    constructor
    · rintro ⟨⟨ha, -⟩, hk⟩
      exact ⟨ha, hk⟩
    · rintro ⟨ha, rfl⟩
      exact ⟨⟨ha, hq⟩, rfl⟩
  · next hq =>
    simp only [reduceCtorEq, iff_false, not_and]
    rintro ⟨-, ha⟩ rfl
    exact hq ha

/-- Ascending lists that have the same keys have them in the same order. -/
theorem keys_eq_iff {s t : Ascending key} : s.keys = t.keys ↔ ∀ k, k ∈ s.keys ↔ k ∈ t.keys := by
  refine ⟨fun h k => by rw [h], fun h => ?_⟩
  have hs : s.keys.Pairwise (· < ·) := List.pairwise_map.2 s.ascending
  have ht : t.keys.Pairwise (· < ·) := List.pairwise_map.2 t.ascending
  have hperm : s.keys.Perm t.keys := (List.perm_ext_iff_of_nodup s.nodup_keys t.nodup_keys).2 h
  have hasymm : ∀ a b : String, a ∈ s.keys → b ∈ t.keys → a < b → b < a → a = b := by
    intro a b _ _ hab hba
    exact absurd (String.lt_trans hab hba) (String.lt_irrefl a)
  exact hperm.eq_of_pairwise hasymm hs ht

/-- An entry with the greatest key is added at the end. -/
theorem insertEntry_of_forall_lt {a : α} {l : List α} (h : ∀ b ∈ l, key b < key a) :
    insertEntry key a l = l ++ [a] := by
  induction l with
  | nil => rfl
  | cons b rest ih =>
    have hb : key b < key a := h b List.mem_cons_self
    have hlt : ¬key a < key b := fun hab => String.lt_irrefl _ (String.lt_trans hab hb)
    have hne : key a ≠ key b := fun hab => String.lt_irrefl (key b) (by rw [hab] at hb; exact hb)
    rw [insertEntry, if_neg hlt, if_neg hne, ih fun c hc => h c (List.mem_cons_of_mem b hc),
      List.cons_append]

theorem entries_insertMany {s : Ascending key} {l : List α}
    (h : (s.entries ++ l).Pairwise (key · < key ·)) : (s.insertMany l).entries = s.entries ++ l := by
  induction l generalizing s with
  | nil => rw [insertMany, List.foldl_nil, List.append_nil]
  | cons a rest ih =>
    have hlast : ∀ b ∈ s.entries, key b < key a :=
      fun b hb => (List.pairwise_append.1 h).2.2 b hb a List.mem_cons_self
    have hinsert : (s.insert a).entries = s.entries ++ [a] := insertEntry_of_forall_lt hlast
    have hsplit : s.entries ++ a :: rest = (s.insert a).entries ++ rest := by
      rw [hinsert, List.append_assoc, List.singleton_append]
    rw [hsplit] at h ⊢
    rw [insertMany, List.foldl_cons, ← insertMany, ih h]

/-- Entries that are in order already stay as they are. -/
theorem entries_ofList {l : List α} (h : l.Pairwise (key · < key ·)) :
    (ofList l : Ascending key).entries = l := by
  rw [ofList, entries_insertMany (by simpa [empty] using h)]
  rfl

theorem ofList_entries (s : Ascending key) : ofList s.entries = s :=
  ext_entries (entries_ofList s.ascending)

/-- An entry with a new key is added and none gives way to it. -/
theorem insertEntry_perm {a : α} {l : List α} (h : key a ∉ l.map key) :
    (insertEntry key a l).Perm (a :: l) := by
  induction l with
  | nil => exact .rfl
  | cons b rest ih =>
    obtain ⟨hb, hrest⟩ : key a ≠ key b ∧ key a ∉ rest.map key := by
      simpa only [List.map_cons, List.mem_cons, not_or] using h
    rw [insertEntry, if_neg hb]
    split
    · exact .rfl
    · exact ((ih hrest).cons b).trans (.swap a b rest)

theorem entries_insertMany_perm {s : Ascending key} {l : List α}
    (h : ((s.entries ++ l).map key).Nodup) :
    (s.insertMany l).entries.Perm (s.entries ++ l) := by
  induction l generalizing s with
  | nil => rw [insertMany, List.foldl_nil, List.append_nil]
  | cons a rest ih =>
    have hmiddle : (s.entries ++ a :: rest).Perm (a :: s.entries ++ rest) := List.perm_middle
    have hnew : key a ∉ s.entries.map key := by
      have hcons := (hmiddle.map key).nodup_iff.1 h
      rw [List.cons_append, List.map_cons, List.nodup_cons, List.map_append] at hcons
      exact fun ha => hcons.1 (List.mem_append_left _ ha)
    have hinsert : ((s.insert a).entries ++ rest).Perm (a :: s.entries ++ rest) :=
      (insertEntry_perm hnew).append_right rest
    have hstep : ((s.insert a).entries ++ rest).Perm (s.entries ++ a :: rest) :=
      hinsert.trans hmiddle.symm
    rw [insertMany, List.foldl_cons, ← insertMany]
    exact (ih ((hstep.map key).nodup_iff.2 h)).trans hstep

/-- Entries with distinct keys are put in order. -/
theorem entries_ofList_perm {l : List α} (h : (l.map key).Nodup) :
    (ofList l : Ascending key).entries.Perm l :=
  entries_insertMany_perm h

section Map

variable {β : Type} {key' : β → String} {f : α → β} (hf : ∀ a, key' (f a) = key a)
include hf

theorem insertEntry_map (a : α) (l : List α) :
    insertEntry key' (f a) (l.map f) = (insertEntry key a l).map f := by
  induction l with
  | nil => rfl
  | cons b rest ih =>
    rw [List.map_cons, insertEntry, insertEntry, hf, hf, ih]
    split
    · rfl
    · split <;> rfl

theorem entries_insertMany_map {s : Ascending key} {t : Ascending key'}
    (h : t.entries = s.entries.map f) (l : List α) :
    (t.insertMany (l.map f)).entries = (s.insertMany l).entries.map f := by
  induction l generalizing s t with
  | nil => exact h
  | cons a rest ih =>
    have hinsert : insertEntry key' (f a) t.entries = (insertEntry key a s.entries).map f := by
      rw [h, insertEntry_map hf]
    exact ih (s := s.insert a) (t := t.insert (f a)) hinsert

/-- Entries are put in order by their keys alone, whatever is made of the rest of them. -/
theorem entries_ofList_map (l : List α) :
    (ofList (l.map f) : Ascending key').entries = (ofList l : Ascending key).entries.map f :=
  entries_insertMany_map hf rfl l

end Map

end Ascending

/-! ### Listings in order -/

namespace Listing

/-- The same entries in ascending order of their keys. -/
def inOrder (l : Listing key) : Listing key := ofAscending (.ofList l.entries)

theorem inOrder_perm (l : Listing key) : l.inOrder.entries.Perm l.entries :=
  Ascending.entries_ofList_perm l.nodup

theorem find?_inOrder (l : Listing key) (k : String) : l.inOrder.find? k = l.find? k :=
  find?_eq_of_perm l.inOrder_perm k

theorem keys_inOrder_pairwise (l : Listing key) : l.inOrder.keys.Pairwise (· < ·) :=
  List.pairwise_map.2 (Ascending.ofList l.entries).ascending

end Listing

/-! ### Sets of names -/

namespace NameSet

theorem contains_iff {s : NameSet} {k : String} : s.contains k = true ↔ k ∈ s.entries := by
  rw [Ascending.contains_iff, Ascending.keys, List.map_id]

theorem mem_ofNames {names : List String} {k : String} :
    k ∈ (ofNames names).entries ↔ k ∈ names := by
  rw [← contains_iff, Ascending.contains_iff, ofNames, Ascending.mem_keys_ofList, List.map_id]

/-- Distinct names are put in order, and none is lost. -/
theorem entries_ofNames_perm {names : List String} (h : names.Nodup) :
    (ofNames names).entries.Perm names :=
  Ascending.entries_ofList_perm (by rwa [List.map_id])

end NameSet

end RelGraph
