/-! Lists whose entries are found by a text key. `Ascending key` keeps its entries in strictly
ascending order of their keys, so a set of keys has one form; `Listing key` keeps them in the order
in which they were first added. In both a key occurs at most once, and that is part of the type. -/

namespace RelGraph

variable {α : Type} {key : α → String}

/-! ### Ascending lists -/

/-- Entries in strictly ascending code-point order of their keys. -/
structure Ascending (key : α → String) where
  entries : List α
  ascending : entries.Pairwise (key · < key ·)

namespace Ascending

/-- Puts `a` at the place of its key, instead of an entry that already has that key. -/
def insertEntry (key : α → String) (a : α) : List α → List α
  | [] => [a]
  | b :: rest =>
    if key a < key b then a :: b :: rest
    else if key a = key b then a :: rest
    else b :: insertEntry key a rest

theorem mem_insertEntry {a b : α} {l : List α} (h : b ∈ insertEntry key a l) :
    b = a ∨ b ∈ l := by
  induction l with
  | nil => simpa [insertEntry] using h
  | cons c rest ih =>
    rw [insertEntry] at h
    split at h
    · simpa using h
    · split at h <;> grind

theorem pairwise_insertEntry {a : α} {l : List α} (h : l.Pairwise (key · < key ·)) :
    (insertEntry key a l).Pairwise (key · < key ·) := by
  induction l with
  | nil => simp [insertEntry]
  | cons b rest ih =>
    obtain ⟨hb, hrest⟩ := List.pairwise_cons.1 h
    rw [insertEntry]
    split
    · rename_i hab
      refine List.pairwise_cons.2 ⟨fun c hc => ?_, h⟩
      rcases List.mem_cons.1 hc with rfl | hc
      · exact hab
      · exact String.lt_trans hab (hb c hc)
    · split
      · rename_i hab
        exact List.pairwise_cons.2 ⟨fun c hc => hab ▸ hb c hc, hrest⟩
      · rename_i hlt hne
        refine List.pairwise_cons.2 ⟨fun c hc => ?_, ih hrest⟩
        rcases mem_insertEntry hc with rfl | hc
        · rcases Std.lt_trichotomy (key c) (key b) with h | h | h
          · exact absurd h hlt
          · exact absurd h hne
          · exact h
        · exact hb c hc

def empty : Ascending key := ⟨[], .nil⟩

instance : EmptyCollection (Ascending key) := ⟨empty⟩

instance : Inhabited (Ascending key) := ⟨empty⟩

/-- Adds an entry; one with the same key gives way to it. -/
def insert (a : α) (s : Ascending key) : Ascending key :=
  ⟨insertEntry key a s.entries, pairwise_insertEntry s.ascending⟩

/-- Adds the entries one after the other, so the last of several with one key stays. -/
def insertMany (s : Ascending key) (l : List α) : Ascending key :=
  l.foldl (fun s a => s.insert a) s

def ofList (l : List α) : Ascending key := insertMany empty l

def filter (p : α → Bool) (s : Ascending key) : Ascending key :=
  ⟨s.entries.filter p, s.ascending.filter p⟩

def find? (s : Ascending key) (k : String) : Option α := s.entries.find? (key · == k)

def contains (s : Ascending key) (k : String) : Bool := s.entries.any (key · == k)

def keys (s : Ascending key) : List String := s.entries.map key

def size (s : Ascending key) : Nat := s.entries.length

def isEmpty (s : Ascending key) : Bool := s.entries.isEmpty

theorem ext_entries {s t : Ascending key} (h : s.entries = t.entries) : s = t := by
  cases s; cases t; simp_all

@[simp] theorem entries_empty : (∅ : Ascending key).entries = [] := rfl

instance [DecidableEq α] : DecidableEq (Ascending key) := fun s t =>
  if h : s.entries = t.entries then isTrue (ext_entries h)
  else isFalse fun e => h (congrArg entries e)

end Ascending

/-! ### Listings -/

/-- Entries in the order in which their keys were first added. -/
structure Listing (key : α → String) where
  entries : List α
  nodup : (entries.map key).Nodup

namespace Listing

def empty : Listing key := ⟨[], by simp⟩

instance : EmptyCollection (Listing key) := ⟨empty⟩

instance : Inhabited (Listing key) := ⟨empty⟩

def find? (l : Listing key) (k : String) : Option α := l.entries.find? (key · == k)

def contains (l : Listing key) (k : String) : Bool := l.entries.any (key · == k)

def keys (l : Listing key) : List String := l.entries.map key

def size (l : Listing key) : Nat := l.entries.length

def isEmpty (l : Listing key) : Bool := l.entries.isEmpty

/-- Adds an entry at the end when its key is new, and leaves the listing alone otherwise. -/
def add (l : Listing key) (a : α) : Listing key :=
  if h : l.contains (key a) = true then l
  else
    ⟨l.entries ++ [a], by
      simp only [contains, List.any_eq_true, beq_iff_eq, not_exists, not_and] at h
      rw [List.map_append, List.nodup_append]
      refine ⟨l.nodup, by simp, ?_⟩
      intro k hk k' hk' e
      obtain ⟨b, hb, rfl⟩ := List.mem_map.1 hk
      simp only [List.map_cons, List.map_nil, List.mem_singleton] at hk'
      exact h b hb (e.trans hk')⟩

/-- Adds the entries one after the other, so the first of several with one key stays. -/
def ofList (l : List α) : Listing key := l.foldl add empty

/-- An ascending list is a listing of the same entries. -/
def ofAscending (s : Ascending key) : Listing key :=
  ⟨s.entries, List.pairwise_map.2
    (s.ascending.imp fun {a b} (h : key a < key b) (e : key a = key b) =>
      String.lt_irrefl (key b) (e ▸ h))⟩

theorem ext_entries {l m : Listing key} (h : l.entries = m.entries) : l = m := by
  cases l; cases m; simp_all

@[simp] theorem entries_empty : (∅ : Listing key).entries = [] := rfl

instance [DecidableEq α] : DecidableEq (Listing key) := fun l m =>
  if h : l.entries = m.entries then isTrue (ext_entries h)
  else isFalse fun e => h (congrArg entries e)

end Listing

/-! ### Sets of names -/

/-- A set of texts, written in ascending order. -/
abbrev NameSet := Ascending (id : String → String)

/-- A set of texts from a list of them. -/
def NameSet.ofNames (names : List String) : NameSet := Ascending.ofList names

end RelGraph
