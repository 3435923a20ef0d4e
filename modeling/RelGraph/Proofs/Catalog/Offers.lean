import Mathlib.Data.List.Induction
import Mathlib.Data.List.Perm.Basic
import Std.Data.HashMap.Lemmas
import RelGraph.Proofs.Catalog

/-! Catalogs and the relations that are offered to them, accepted or refused in any mix. A catalog
lists the first relation of each identifier that was offered, in the order of the offers. All
look-ups agree with this list, also when they go through a table that is kept beside it. -/

namespace RelGraph.Catalog

open RelGraph.Outcome

variable {c : Catalog} {r : Relation}

/-! ### Offers -/

/-- The identifier is bound to another pair of labels. -/
def Conflicts (c : Catalog) (r : Relation) : Prop :=
  ∃ old, c.get? r.id = some old ∧ (old.forward ≠ r.forward ∨ old.reverse ≠ r.reverse)

/-- Offers a relation to a catalog where it stands. -/
def offer (c : Catalog) (r : Relation) : Catalog × Option Fault := inPlace c (c.insert r)

/-- The catalog to which the relations were offered one after the other. -/
def ofOffers (offered : List Relation) : Catalog := offered.foldl (fun c r => (c.offer r).1) ∅

theorem add_of_get?_eq_some {old : Relation} (h : c.get? r.id = some old) : c.add r = c := by
  have hkey : r.id ∈ c.keys := by
    rw [← Listing.contains_iff, Listing.contains_eq_isSome_find?]
    exact Option.isSome_of_eq_some h
  apply Listing.ext_entries
  rw [Listing.entries_add, if_pos hkey]

theorem sameLabels_eq_false_iff {r s : Relation} :
    r.sameLabels s = false ↔ r.forward ≠ s.forward ∨ r.reverse ≠ s.reverse := by
  rw [Relation.sameLabels, Bool.and_eq_false_iff, beq_eq_false_iff_ne, beq_eq_false_iff_ne]

/-- A relation is refused when it conflicts with the catalog. -/
theorem exists_insert_eq_error (h : Conflicts c r) : ∃ fault, c.insert r = .error fault := by
  obtain ⟨old, hold, hlabels⟩ := h
  refine ⟨.relationRedefined r.id old.forward old.reverse, ?_⟩
  rw [insert, hold]
  simp [sameLabels_eq_false_iff.2 hlabels]

theorem insert_of_not_conflicts (h : ¬Conflicts c r) : c.insert r = .ok (c.add r) := by
  rw [insert]
  cases hold : c.get? r.id with
  | none => rfl
  | some old =>
    have hlabels : old.sameLabels r = true := by
      by_contra hne
      exact h ⟨old, hold, sameLabels_eq_false_iff.1 (by simpa using hne)⟩
    simp [hlabels, add_of_get?_eq_some hold]

theorem insert_eq_error_iff : (∃ fault, c.insert r = .error fault) ↔ Conflicts c r := by
  refine ⟨fun ⟨fault, hfault⟩ => ?_, exists_insert_eq_error⟩
  by_contra h
  rw [insert_of_not_conflicts h] at hfault
  cases hfault

/-- Accepted or refused, an offer leaves the catalog with the relation added if its identifier is
new. -/
theorem fst_offer (c : Catalog) (r : Relation) : (c.offer r).1 = c.add r := by
  rw [offer]
  by_cases h : Conflicts c r
  · obtain ⟨fault, hfault⟩ := exists_insert_eq_error h
    obtain ⟨old, hold, -⟩ := h
    rw [hfault, add_of_get?_eq_some hold, inPlace]
  · rw [insert_of_not_conflicts h, inPlace]

theorem ofOffers_eq (offered : List Relation) : ofOffers offered = Listing.ofList offered := by
  have hstep : (fun (c : Catalog) r => (c.offer r).1) = Listing.add := by
    funext c r
    exact fst_offer c r
  rw [ofOffers, hstep]
  rfl

/-! ### A table beside the order -/

/-- A catalog as it is kept for looking up: a table from identifiers to relations, and the relations
in the order of their insertion. -/
structure Tabled where
  table : Std.HashMap String Relation
  order : Array Relation

namespace Tabled

def empty : Tabled := ⟨∅, #[]⟩

/-- Looks the identifier up and writes to both parts when it is new. -/
def insert (t : Tabled) (r : Relation) : Tabled × Option Fault :=
  match t.table[r.id]? with
  | some old =>
    (t, if old.sameLabels r then none else some (.relationRedefined r.id old.forward old.reverse))
  | none => (⟨t.table.insert r.id r, t.order.push r⟩, none)

def ofOffers (offered : List Relation) : Tabled := offered.foldl (fun t r => (t.insert r).1) empty

/-- The order is that of the catalog, and the table finds what the catalog finds. -/
structure InStep (t : Tabled) (c : Catalog) : Prop where
  order_eq : t.order.toList = c.entries
  getElem?_eq : ∀ id, t.table[id]? = c.get? id

/-- Both take the same relations, for the same reasons, and stay in step. -/
theorem InStep.insert {t : Tabled} (h : InStep t c) (r : Relation) :
    InStep (t.insert r).1 (c.offer r).1 ∧ (t.insert r).2 = (c.offer r).2 := by
  rw [Tabled.insert, offer, Catalog.insert, h.getElem?_eq]
  cases hold : c.get? r.id with
  | some old =>
    dsimp only
    cases old.sameLabels r with
    | true => exact ⟨h, rfl⟩
    | false => exact ⟨h, rfl⟩
  | none =>
    have hkey : r.id ∉ c.keys := Listing.find?_eq_none_iff.1 hold
    refine ⟨⟨?_, fun id => ?_⟩, rfl⟩
    · show (t.order.push r).toList = (c.add r).entries
      rw [Array.toList_push, h.order_eq, Listing.entries_add, if_neg hkey]
    · show (t.table.insert r.id r)[id]? = (c.add r).find? id
      rw [Std.HashMap.getElem?_insert, Listing.find?_add, h.getElem?_eq, get?]
      by_cases hid : r.id = id
      · rw [← hid, ← get?, hold]
        simp
      · simp [hid]

theorem inStep_ofOffers (offered : List Relation) :
    InStep (ofOffers offered) (Catalog.ofOffers offered) := by
  induction offered using List.reverseRecOn with
  | nil => exact ⟨rfl, fun id => by simp [ofOffers, empty]; rfl⟩
  | append_singleton offered r ih =>
    unfold ofOffers Catalog.ofOffers
    rw [List.foldl_append, List.foldl_append]
    exact (ih.insert r).1

end Tabled

/-! ### Looking up -/

theorem contains_iff_exists_get? {id : String} :
    c.contains id = true ↔ ∃ r, c.get? id = some r := by
  rw [Listing.contains_eq_isSome_find?, Option.isSome_iff_exists, get?]

theorem get?_eq_none_iff_forall {id : String} :
    c.get? id = none ↔ ∀ r ∈ c.entries, r.id ≠ id := by
  simp [get?, Listing.find?_eq_none_iff, Listing.keys]

theorem resolve_of_get?_eq_some {id : String} (h : c.get? id = some r) : c.resolve id = .ok r :=
  resolve_eq_ok.2 (Listing.find?_eq_some_iff.1 h)

theorem resolve_of_isBlank {id : String} (h : Text.isBlank id = true) :
    c.resolve id = .error .missingRelationId := by
  rw [resolve, if_pos h]

theorem resolve_of_get?_eq_none {id : String} (hblank : Text.isBlank id = false)
    (h : c.get? id = none) : c.resolve id = .error (.unknownRelation id) := by
  rw [resolve, if_neg (by simp [hblank]), h]

/-! ### Offers in any number -/

/-- What is to be said of a catalog to which the relations were offered: what it lists, what it
finds, and what it takes next. -/
structure Reflects (c : Catalog) (offered : List Relation) : Prop where
  entries_eq : c.entries = offered.eraseDupsBy Relation.sameKind
  nodup_ids : (c.entries.map Relation.id).Nodup
  id_not_blank : ∀ r ∈ c.entries, Text.isBlank r.id = false
  get?_eq_find? : ∀ id, c.get? id = offered.find? (·.id == id)
  get?_eq_some : ∀ id r, c.get? id = some r ↔ r ∈ c.entries ∧ r.id = id
  get?_eq_none : ∀ id, c.get? id = none ↔ ∀ r ∈ c.entries, r.id ≠ id
  contains_eq : ∀ id, c.contains id = true ↔ ∃ r, c.get? id = some r
  resolve_bound : ∀ id r, c.get? id = some r → c.resolve id = .ok r
  resolve_blank : ∀ id, Text.isBlank id = true →
    ∃ fault, c.resolve id = .error fault ∧ fault.family = .configuration
  resolve_unbound : ∀ id, Text.isBlank id = false → c.get? id = none →
    c.resolve id = .error (.unknownRelation id)
  insert_fails : ∀ r, (∃ fault, c.insert r = .error fault) ↔ Conflicts c r
  offer_repeated : ∀ r, c.contains r.id = true → (c.offer r).1 = c

theorem reflects_ofOffers (offered : List Relation) : Reflects (ofOffers offered) offered := by
  rw [ofOffers_eq]
  constructor
  case entries_eq => exact Listing.entries_ofList_eq offered
  case nodup_ids => exact Listing.nodup _
  case id_not_blank => exact fun r _ => r.id_not_blank
  case get?_eq_find? => exact Listing.find?_ofList offered
  case get?_eq_some => exact fun _ _ => Listing.find?_eq_some_iff
  case get?_eq_none => exact fun _ => get?_eq_none_iff_forall
  case contains_eq => exact fun _ => contains_iff_exists_get?
  case resolve_bound => exact fun _ _ => resolve_of_get?_eq_some
  case resolve_blank => exact fun _ h => ⟨.missingRelationId, resolve_of_isBlank h, rfl⟩
  case resolve_unbound => exact fun _ => resolve_of_get?_eq_none
  case insert_fails => exact fun _ => insert_eq_error_iff
  case offer_repeated =>
    intro r h
    obtain ⟨old, hold⟩ := contains_iff_exists_get?.1 h
    rw [fst_offer, add_of_get?_eq_some hold]

theorem exists_ofRelations_iff {l : List Relation} :
    (∃ c, ofRelations l = .ok c) ↔ Consistent l := by
  simp only [ofRelations_eq_ok]
  exact ⟨fun ⟨_, h, _⟩ => h, fun h => ⟨_, h, rfl⟩⟩

/-- Relations are the same when identifiers and labels are. -/
theorem consistent_iff_labels {l : List Relation} :
    Consistent l ↔
      ∀ r ∈ l, ∀ s ∈ l, r.id = s.id → r.forward = s.forward ∧ r.reverse = s.reverse := by
  refine forall₄_congr fun r _ s _ => forall_congr' fun hid => ?_
  constructor
  · rintro rfl
    exact ⟨rfl, rfl⟩
  · rintro ⟨hforward, hreverse⟩
    apply Relation.ext_of_sameLabels hid
    rw [Relation.sameLabels, hforward, hreverse]
    simp

theorem consistent_iff_of_perm {l m : List Relation} (h : l.Perm m) :
    Consistent l ↔ Consistent m := by
  simp only [Consistent, h.mem_iff]

/-- Whatever was offered, a catalog lists the first relation of each identifier and all ways of
looking one up agree with this list, as does a table beside the order. A list of relations makes a
catalog exactly when no two of them give one identifier different labels, so in any order or in
none. -/
theorem reflects_of_any_offers :
    (∀ offered, Reflects (ofOffers offered) offered ∧
      (Tabled.ofOffers offered).InStep (ofOffers offered)) ∧
    (∀ l c, ofRelations l = .ok c → c = ofOffers l) ∧
    (∀ l, (∃ c, ofRelations l = .ok c) ↔
      ∀ r ∈ l, ∀ s ∈ l, r.id = s.id → r.forward = s.forward ∧ r.reverse = s.reverse) ∧
    ∀ l m, l.Perm m → ((∃ c, ofRelations l = .ok c) ↔ ∃ c, ofRelations m = .ok c) := by
  refine ⟨fun offered => ⟨reflects_ofOffers offered, Tabled.inStep_ofOffers offered⟩,
    fun l c h => ?_, fun l => ?_, fun l m h => ?_⟩
  · rw [ofOffers_eq]
    exact (ofRelations_eq_ok.1 h).2
  · rw [exists_ofRelations_iff, consistent_iff_labels]
  · rw [exists_ofRelations_iff, exists_ofRelations_iff, consistent_iff_of_perm h]

/-- Two relations with one identifier and different labels, and one with another identifier. -/
def offeredSample : List Relation :=
  [⟨"reads", "reads", "read by", rfl⟩, ⟨"reads", "loads", "loaded by", rfl⟩,
    ⟨"writes", "writes", "written by", rfl⟩]

theorem reflects_of_any_offers_sample :
    let c := ofOffers offeredSample
    c.keys = ["reads", "writes"] ∧ c.get? "reads" = offeredSample.head? ∧
      (∃ fault, c.resolve "  " = .error fault ∧ fault.family = .configuration) ∧
      c.resolve "calls" = .error (.unknownRelation "calls") ∧
      (∃ d, ofRelations offeredSample.tail = .ok d ∧ d = ofOffers offeredSample.tail) ∧
      (∃ d, ofRelations offeredSample.tail.reverse = .ok d) ∧
      ¬∃ d, ofRelations offeredSample = .ok d := by
  intro c
  obtain ⟨hreflects, hofOffers, hlabels, hperm⟩ := reflects_of_any_offers
  have hc := (hreflects offeredSample).1
  have htail : ∃ d, ofRelations offeredSample.tail = .ok d := (hlabels _).2 (by decide)
  obtain ⟨d, hd⟩ := htail
  exact ⟨by decide, hc.get?_eq_find? "reads", hc.resolve_blank "  " (by decide),
    hc.resolve_unbound "calls" (by decide) (by decide), ⟨d, hd, hofOffers _ d hd⟩,
    (hperm _ _ (List.reverse_perm _).symm).1 ⟨d, hd⟩,
    fun h => absurd ((hlabels _).1 h) (by decide)⟩

end RelGraph.Catalog
