import Mathlib.Data.List.Nodup
import RelGraph.Datum
import RelGraph.Proofs.Json
import RelGraph.Proofs.Keyed
import RelGraph.Proofs.Lists

/-! Data that come from JSON values. What was written as a list, as a map or as a record is taken
from such a datum again, and a stored value with finite numbers only is the value of its datum. Any
value of a datum is a stored one as far as its numbers can be written. A record can have fields that
are left out, and it can stand among the entries of another record. -/

namespace RelGraph.Datum

theorem ofItems_eq_map (items : List Json) : ofJson.ofItems items = items.map ofJson := by
  induction items with
  | nil => rfl
  | cons j rest ih => rw [ofJson.ofItems, ih, List.map_cons]

theorem ofMembers_eq_map (members : List (String × Json)) :
    ofJson.ofMembers members = members.map fun m => (m.1, ofJson m.2) := by
  induction members with
  | nil => rfl
  | cons m rest ih => rw [ofJson.ofMembers, ih, List.map_cons]

theorem ofJson_arr (items : List Json) : ofJson (.arr items) = list (items.map ofJson) := by
  rw [ofJson, ofItems_eq_map]

theorem ofJson_obj (members : List (String × Json)) :
    ofJson (.obj members) = table (members.map fun m => (m.1, ofJson m.2)) := by
  rw [ofJson, ofMembers_eq_map]

/-! ### Values -/

theorem toItems?_eq_mapM (items : List Datum) : toJson?.toItems? items = items.mapM toJson? := by
  induction items with
  | nil => rfl
  | cons d rest ih => rw [toJson?.toItems?, ih, List.mapM_cons]

theorem toMembers?_eq_mapM (entries : List (String × Datum)) :
    toJson?.toMembers? entries = entries.mapM fun e => do return (e.1, ← toJson? e.2) := by
  induction entries with
  | nil => rfl
  | cons e rest ih =>
    rw [toJson?.toMembers?, ih, List.mapM_cons]
    cases toJson? e.2 <;> rfl

/-- What is read from every item by itself is read from all of them. -/
theorem mapM_map_eq_some {α β γ : Type} {f : α → β} {read : β → Option γ} {g : α → γ} {l : List α}
    (h : ∀ a ∈ l, read (f a) = some (g a)) : (l.map f).mapM read = some (l.map g) := by
  induction l with
  | nil => rfl
  | cons a rest ih =>
    obtain ⟨ha, hrest⟩ := List.forall_mem_cons.1 h
    simp [ha, ih hrest]

theorem sortMembers_of_pairwise {members : List (String × Json)}
    (h : (members.map Prod.fst).Pairwise (· < ·)) : sortMembers members = members :=
  Ascending.entries_ofList (List.pairwise_map.1 h)

/-- A stored value with finite numbers only is the value of its datum. -/
theorem toJson?_ofJson {v : Json} (hfinite : v.Finite) (hstored : v.Stored) :
    toJson? (ofJson v) = some v := by
  induction hfinite with
  | null => rfl
  | bool b => rfl
  | int n => cases n <;> rfl
  | float h => rw [ofJson, toJson?, if_pos h]
  | str s => rfl
  | @arr items _ ih =>
    have hitems : ∀ j ∈ items, toJson? (ofJson j) = some j :=
      fun j hj => ih j hj (Json.stored_arr_iff.1 hstored j hj)
    rw [ofJson_arr, toJson?, toItems?_eq_mapM, mapM_map_eq_some hitems]
    simp
  | @obj members _ ih =>
    obtain ⟨hkeys, hvalues⟩ := Json.stored_obj_iff.1 hstored
    have hmembers : ∀ m ∈ members, toJson? (ofJson m.2) = some m.2 :=
      fun m hm => ih m hm (hvalues m hm)
    rw [ofJson_obj, toJson?, toMembers?_eq_mapM, mapM_map_eq_some (g := id)]
    · simp [sortMembers_of_pairwise hkeys]
    · intro m hm
      simp [hmembers m hm]

/-- What is read from a list is read from its items one by one. -/
theorem mapM_eq_some {α β : Type} {read : α → Option β} {l : List α} {bs : List β} :
    l.mapM read = some bs ↔ List.Forall₂ (fun a b => read a = some b) l bs := by
  induction l generalizing bs with
  | nil => cases bs <;> simp
  | cons a rest ih =>
    simp only [List.mapM_cons, Option.bind_eq_bind, Option.bind_eq_some_iff, Option.pure_def,
      Option.some.injEq, ih]
    constructor
    · rintro ⟨b, hb, bs, hbs, rfl⟩
      exact .cons hb hbs
    · rintro (_ | ⟨hb, hbs⟩)
      exact ⟨_, hb, _, hbs, rfl⟩

/-- The items of a list are read one by one. -/
theorem exists_of_list?_eq_some {α : Type} {item : Datum → Option α} {d : Datum} {l : List α}
    (h : list? item d = some l) {a : α} (ha : a ∈ l) : ∃ d, item d = some a := by
  cases d with
  | list items =>
    obtain ⟨d, -, hd⟩ := (mapM_eq_some.1 h).exists_mem_left ha
    exact ⟨d, hd⟩
  | _ => cases h

/-- The values of a map are read one by one. -/
theorem exists_of_map?_eq_some {α : Type} {value : Datum → Option α} {d : Datum}
    {m : Ascending (Prod.fst : String × α → String)} (h : map? value d = some m) {e : String × α}
    (he : e ∈ m.entries) : ∃ d, value d = some e.2 := by
  cases d with
  | table entries =>
    obtain ⟨read, hread, hm⟩ := Option.bind_eq_some_iff.1 h
    cases hm
    obtain ⟨entry, -, hentry⟩ := (mapM_eq_some.1 hread).exists_mem_left
      (Ascending.mem_of_mem_ofList he)
    obtain ⟨a, ha, he'⟩ := Option.bind_eq_some_iff.1 hentry
    cases he'
    exact ⟨entry.2, ha⟩
  | _ => cases h

theorem toJson?_list (items : List Datum) :
    toJson? (list items) = (list? toJson? (list items)).map .arr := by
  rw [toJson?, toItems?_eq_mapM, list?]

theorem toJson?_table (entries : List (String × Datum)) :
    toJson? (table entries) = (map? toJson? (table entries)).map fun m => .obj m.entries := by
  rw [toJson?, toMembers?_eq_mapM, map?]
  cases entries.mapM fun e => do return (e.1, ← toJson? e.2) <;> rfl

theorem exists_of_toJson?_eq_arr {d : Datum} {items : List Json} (h : toJson? d = some (.arr items))
    {j : Json} (hj : j ∈ items) : ∃ d, toJson? d = some j := by
  cases d with
  | list data =>
    rw [toJson?_list, Option.map_eq_some_iff] at h
    obtain ⟨l, hl, hitems⟩ := h
    cases hitems
    exact exists_of_list?_eq_some hl hj
  | float x =>
    rw [toJson?] at h
    split at h <;> cases h
  | _ => simp [toJson?] at h

/-- An object comes from a table, whose keys are put in order. -/
theorem of_toJson?_eq_obj {d : Datum} {members : List (String × Json)}
    (h : toJson? d = some (.obj members)) :
    (members.map Prod.fst).Pairwise (· < ·) ∧ ∀ m ∈ members, ∃ d, toJson? d = some m.2 := by
  cases d with
  | table entries =>
    rw [toJson?_table, Option.map_eq_some_iff] at h
    obtain ⟨m, hm, hmembers⟩ := h
    cases hmembers
    exact ⟨List.pairwise_map.2 m.ascending, fun _ => exists_of_map?_eq_some hm⟩
  | float x =>
    rw [toJson?] at h
    split at h <;> cases h
  | _ => simp [toJson?] at h

/-- The value of a datum is a stored one when its numbers can be written. -/
theorem stored_of_toJson? {d : Datum} {v : Json} (h : toJson? d = some v) (hwhole : v.Whole) :
    v.Stored := by
  induction hwhole generalizing d with
  | null => exact trivial
  | bool b => exact trivial
  | int hn => exact hn
  | str s => exact trivial
  | arr _ ih =>
    refine Json.stored_arr_iff.2 fun j hj => ?_
    obtain ⟨d, hd⟩ := exists_of_toJson?_eq_arr h hj
    exact ih j hj hd
  | obj _ ih =>
    obtain ⟨hkeys, hvalues⟩ := of_toJson?_eq_obj h
    refine Json.stored_obj_iff.2 ⟨hkeys, fun m hm => ?_⟩
    obtain ⟨d, hd⟩ := hvalues m hm
    exact ih m hm hd

@[simp] theorem string?_ofJson (s : String) : string? (ofJson (.str s)) = some s := rfl

@[simp] theorem bool?_ofJson (b : Bool) : bool? (ofJson (.bool b)) = some b := rfl

/-! ### Lists and maps -/

section Lists

variable {α : Type} {toJson : α → Json} {item : Datum → Option α} {l : List α}
  (h : ∀ a ∈ l, item (ofJson (toJson a)) = some a)
include h

theorem mapM_ofJson : ((l.map toJson).map ofJson).mapM item = some l := by
  rw [List.map_map, mapM_map_eq_some (f := ofJson ∘ toJson) (g := id) h, List.map_id]

/-- A list is read from the array of its items. -/
theorem list?_ofJson : list? item (ofJson (.arr (l.map toJson))) = some l := by
  rw [ofJson_arr, list?, mapM_ofJson h]

end Lists

theorem strings?_ofJson (l : List String) : strings? (ofJson (.strings l)) = some l :=
  list?_ofJson fun _ _ => rfl

/-- A map is read from the object with its entries. -/
theorem map?_ofJson {α : Type} {f : α → Json} {value : Datum → Option α}
    {m : Ascending (Prod.fst : String × α → String)}
    (h : ∀ e ∈ m.entries, value (ofJson (f e.2)) = some e.2) :
    map? value (ofJson (.obj (m.entries.map fun e => (e.1, f e.2)))) = some m := by
  have hread : (m.entries.map fun e => (e.1, ofJson (f e.2))).mapM
      (fun e => do return (e.1, ← value e.2)) = some (m.entries.map id) := by
    refine mapM_map_eq_some fun e he => ?_
    simp [h e he]
  rw [ofJson_obj, List.map_map, map?, Function.comp_def, hread, List.map_id]
  exact congrArg some (Ascending.ofList_entries m)

/-! ### Records -/

section Records

variable {entries : List (String × Datum)}

theorem lookUp?_append (k : String) (l m : List (String × Datum)) :
    lookUp? k (l ++ m) = (lookUp? k l).or (lookUp? k m) := by
  rw [lookUp?, List.find?_append, Option.map_or, lookUp?, lookUp?]

theorem lookUp?_eq_none_iff {k : String} : lookUp? k entries = none ↔ k ∉ entries.map Prod.fst := by
  rw [lookUp?, Option.map_eq_none_iff, List.find?_eq_none]
  simp only [beq_iff_eq, List.mem_map, not_exists, not_and]

variable (hkeys : (entries.map Prod.fst).Nodup)
include hkeys

/-- An entry is found by its key when no other entry has that key. -/
theorem lookUp?_of_mem {e : String × Datum} (he : e ∈ entries) :
    lookUp? e.1 entries = some e.2 := by
  have hfind : entries.find? (·.1 == e.1) = some e := by
    cases h : entries.find? (·.1 == e.1) with
    | none => exact absurd (List.find?_eq_none.1 h e he) (by simp)
    | some e' =>
      have hkey : e'.1 = e.1 := by simpa using List.find?_some h
      rw [List.inj_on_of_nodup_map hkeys (List.mem_of_find?_eq_some h) he hkey]
  rw [lookUp?, hfind, Option.map_some]

theorem countP_key_le_one (k : String) : entries.countP (·.1 == k) ≤ 1 := by
  have hcount : (entries.map Prod.fst).count k ≤ 1 := List.nodup_iff_count_le_one.1 hkeys k
  rw [List.count, List.countP_map] at hcount
  exact hcount

/-- In a table with distinct keys no field is repeated. Other entries may stand beside them. -/
theorem fields?_table (c : Conventions) (names : List String) :
    fields? c names (table entries) = some (names.map (lookUp? · entries)) := by
  have honce : ¬(names.any fun n => (entries.countP (·.1 == n)) > 1) = true := by
    rw [List.any_eq_true]
    rintro ⟨n, -, hn⟩
    have hle := countP_key_le_one hkeys n
    have hlt := of_decide_eq_true hn
    omega
  rw [fields?, if_neg honce]

end Records

/-- A record is read from the object that has its fields for members. -/
theorem fields?_ofJson (c : Conventions) {names : List String} (hnames : names.Nodup)
    {members : List (String × Json)} (hmembers : members.map Prod.fst = names) :
    fields? c names (ofJson (.obj members)) = some (members.map fun m => some (ofJson m.2)) := by
  have hkeys : ((members.map fun m => (m.1, ofJson m.2)).map Prod.fst).Nodup := by
    rw [List.map_map]
    exact hmembers ▸ hnames
  rw [ofJson_obj, fields?_table hkeys, ← hmembers, List.map_map, Option.some.injEq]
  refine List.map_congr_left fun m hm => ?_
  exact lookUp?_of_mem hkeys (e := (m.1, ofJson m.2)) (List.mem_map.2 ⟨m, hm, rfl⟩)

/-! ### Fields that are left out -/

/-- The entries of the fields that are set. -/
def present (fields : List (String × Option Datum)) : List (String × Datum) :=
  fields.filterMap fun f => f.2.map fun d => (f.1, d)

section Present

variable {fields : List (String × Option Datum)}

theorem mem_present {e : String × Datum} : e ∈ present fields ↔ (e.1, some e.2) ∈ fields := by
  rw [present, List.mem_filterMap]
  constructor
  · rintro ⟨⟨name, value⟩, hf, he⟩
    obtain ⟨d, rfl, rfl⟩ := Option.map_eq_some_iff.1 he
    exact hf
  · intro hf
    exact ⟨_, hf, rfl⟩

theorem keys_present_sublist : ((present fields).map Prod.fst).Sublist (fields.map Prod.fst) := by
  induction fields with
  | nil => exact .slnil
  | cons f rest ih =>
    obtain ⟨name, _ | d⟩ := f
    · exact ih.cons name
    · exact ih.cons_cons name

theorem lookUp?_present (hnames : (fields.map Prod.fst).Nodup) {f : String × Option Datum}
    (hf : f ∈ fields) : lookUp? f.1 (present fields) = f.2 := by
  obtain ⟨name, _ | d⟩ := f
  · refine lookUp?_eq_none_iff.2 fun hname => ?_
    obtain ⟨e, he, rfl⟩ := List.mem_map.1 hname
    have hsame := List.inj_on_of_nodup_map hnames hf (mem_present.1 he) rfl
    simp at hsame
  · exact lookUp?_of_mem (hnames.sublist keys_present_sublist) (e := (name, d))
      (mem_present.2 hf)

section Beside

variable {front : List (String × Datum)} (h : (front.map Prod.fst ++ fields.map Prod.fst).Nodup)
include h

theorem nodup_keys_append_present : ((front ++ present fields).map Prod.fst).Nodup := by
  rw [List.map_append]
  exact h.sublist ((List.Sublist.refl _).append keys_present_sublist)

/-- A record whose fields may be left out is read from the entries of those that are set, whatever
other entries stand before them. -/
theorem fields?_present (c : Conventions) :
    fields? c (fields.map Prod.fst) (table (front ++ present fields)) =
      some (fields.map Prod.snd) := by
  obtain ⟨-, hfields, hdisjoint⟩ := List.nodup_append.1 h
  rw [fields?_table (nodup_keys_append_present h), List.map_map, Option.some.injEq]
  refine List.map_congr_left fun f hf => ?_
  have hnone : lookUp? f.1 front = none :=
    lookUp?_eq_none_iff.2 fun hmem => hdisjoint _ hmem _ (List.mem_map.2 ⟨f, hf, rfl⟩) rfl
  rw [Function.comp_apply, lookUp?_append, hnone, Option.none_or, lookUp?_present hfields hf]

/-- The entries before such fields are a record of their own. -/
theorem fields?_front (c : Conventions) {names : List String}
    (hnames : ∀ n ∈ names, n ∈ front.map Prod.fst) :
    fields? c names (table (front ++ present fields)) = some (names.map (lookUp? · front)) := by
  rw [fields?_table (nodup_keys_append_present h), Option.some.injEq]
  refine List.map_congr_left fun n hn => ?_
  obtain ⟨d, hd⟩ := Option.ne_none_iff_exists'.1 fun hnone =>
    lookUp?_eq_none_iff.1 hnone (hnames n hn)
  rw [lookUp?_append, hd, Option.some_or]

end Beside

end Present

end RelGraph.Datum
