import RelGraph.Positions
import RelGraph.Proofs.Catalog.Offers
import RelGraph.Proofs.Registry.History

/-! Registries with their tables. A registry is kept in parts: the models in the order of their
registration, a table from identifiers to their places, and the two parts of the catalog. An offer
writes to them one after the other and may stop on its way. After the check it does not, so that the
parts stay in step with the registry that is described by its lists. An induction over the offers
then shows what the tables find, whatever was offered and refused before. -/

namespace RelGraph

/-! ### Writing into the catalog -/

namespace Catalog.Tabled

/-- Writes relations one by one and stops at the first that is refused. The ones before it stay
written. -/
def insertInTurn (t : Tabled) : List Relation → Tabled × Option Fault
  | [] => (t, none)
  | r :: rest =>
    match t.insert r with
    | (t', none) => t'.insertInTurn rest
    | (t', some fault) => (t', some fault)

theorem InStep.insertInTurn {t : Tabled} {c : Catalog} (h : InStep t c) (l : List Relation) :
    InStep (t.insertInTurn l).1 (c.insertInTurn l).1 ∧
      (t.insertInTurn l).2 = (c.insertInTurn l).2 := by
  induction l generalizing t c with
  | nil => exact ⟨h, rfl⟩
  | cons r rest ih =>
    obtain ⟨hnext, hfault⟩ := h.insert r
    rw [offer] at hnext hfault
    rw [Tabled.insertInTurn, Catalog.insertInTurn]
    rcases hinsert : t.insert r with ⟨t', fault?⟩
    rw [hinsert] at hnext hfault
    cases hr : c.insert r with
    | ok c' =>
      rw [hr, Outcome.inPlace] at hnext hfault
      obtain rfl : fault? = none := hfault
      exact ih hnext
    | error fault =>
      rw [hr, Outcome.inPlace] at hnext hfault
      obtain rfl : fault? = some fault := hfault
      exact ⟨hnext, rfl⟩

end Catalog.Tabled

namespace Registry

/-! ### A table of places beside the models -/

/-- A registry as it is kept for looking up: the models in the order of their registration, a table
from their identifiers to their places, and their relations. -/
structure Tabled where
  models : Array Model
  index : Std.HashMap String Nat
  relations : Catalog.Tabled

namespace Tabled

def empty : Tabled := ⟨#[], ∅, .empty⟩

def get? (t : Tabled) (id : String) : Option Model := t.index[id]?.bind fun i => t.models[i]?

def relation? (t : Tabled) (id : String) : Option Relation := t.relations.table[id]?

/-- A relation of the model that is bound to other labels already. -/
def conflict? (t : Tabled) (m : Model) : Option Relation :=
  m.relations.find? fun own => (t.relation? own.id).any fun old => !old.sameLabels own

/-- Registers a model where the registry stands. The model is checked, its relations are written one
by one, and then its place and the model itself. A relation that is refused ends it on the way. -/
def register (t : Tabled) (m : Model) : Tabled × Option Fault :=
  if t.index.contains m.id then (t, some (.duplicateModel m.id))
  else
    match t.conflict? m with
    | some own => (t, some (.modelRedefinesRelation m.id own.id))
    | none =>
      match t.relations.insertInTurn m.relations with
      | (relations, some fault) => (⟨t.models, t.index, relations⟩, some fault)
      | (relations, none) =>
        (⟨t.models.push m, t.index.insert m.id t.models.size, relations⟩, none)

/-- The registry with its tables to which the models were offered one after the other. -/
def ofModels (offered : List Model) : Tabled :=
  offered.foldl (fun t m => (t.register m).1) empty

theorem ofModels_concat (offered : List Model) (m : Model) :
    ofModels (offered ++ [m]) = ((ofModels offered).register m).1 := by
  simp [ofModels]

/-- The models are those of the registry, the index leads to their places, and the tables of the
relations agree with its catalog. -/
structure InStep (t : Tabled) (r : Registry) : Prop where
  models_eq : t.models.toList = r.models.entries
  located : Located Model.id t.index t.models
  relations : t.relations.InStep r.relations

variable {t : Tabled} {r : Registry} {m : Model}

theorem InStep.contains_eq (h : InStep t r) (id : String) :
    t.index.contains id = r.models.contains id := by
  rw [Bool.eq_iff_iff, h.located.contains_iff, Listing.contains_iff, h.models_eq, Listing.keys]

/-- Looking up by way of the place and searching the models give the same. -/
theorem InStep.get?_eq (h : InStep t r) (id : String) : t.get? id = r.get? id := by
  ext m
  rw [get?, h.located.bind_eq_some_iff, h.models_eq, Registry.get?, Listing.find?_eq_some_iff]

theorem InStep.relation?_eq (h : InStep t r) (id : String) : t.relation? id = r.relation? id :=
  h.relations.getElem?_eq id

theorem InStep.conflict?_eq (h : InStep t r) (m : Model) : t.conflict? m = r.conflict? m := by
  simp only [conflict?, Registry.conflict?, h.relation?_eq]

/-- A model that is refused is refused by the check, and the check writes nothing. -/
theorem InStep.register_of_error (h : InStep t r) {fault : Fault}
    (hr : r.register m = .error fault) : t.register m = (t, some fault) := by
  rw [Tabled.register, h.contains_eq, h.conflict?_eq]
  rw [Registry.register] at hr
  by_cases hid : r.models.contains m.id = true
  · rw [if_pos hid] at hr ⊢
    cases hr
    rfl
  · rw [if_neg hid] at hr ⊢
    cases hown : r.conflict? m with
    | some own =>
      rw [hown] at hr
      cases hr
      rfl
    | none =>
      rw [hown] at hr
      cases hr

/-- A model that is registered is written to all parts. -/
theorem InStep.register_of_ok (h : InStep t r) {r' : Registry} (hr : r.register m = .ok r') :
    ∃ t', t.register m = (t', none) ∧ InStep t' r' := by
  obtain ⟨hid, hagree, rfl⟩ := register_eq_ok.1 hr
  have hconflict : r.conflict? m = none := conflict?_eq_none_iff.2 hagree
  have hnew : t.index.contains m.id = false := by
    rw [h.contains_eq, ← Bool.not_eq_true, Listing.contains_iff]
    exact hid
  obtain ⟨hrelations, hwritten⟩ := h.relations.insertInTurn m.relations
  rw [Catalog.insertInTurn_eq (consistent_of_conflict? hconflict)] at hrelations hwritten
  have hrun : t.relations.insertInTurn m.relations =
      ((t.relations.insertInTurn m.relations).1, none) := Prod.ext rfl hwritten
  refine ⟨⟨t.models.push m, t.index.insert m.id t.models.size, _⟩, ?_, ?_, ?_, hrelations⟩
  · rw [Tabled.register, hnew, if_neg Bool.false_ne_true, h.conflict?_eq, hconflict, hrun]
  · rw [Array.toList_push, h.models_eq, Listing.entries_add, if_neg hid]
  · exact h.located.push (Std.HashMap.getElem?_eq_none_of_contains_eq_false hnew)

/-- One offer keeps the parts in step, and is refused for the same reason. -/
theorem InStep.register (h : InStep t r) (m : Model) :
    InStep (t.register m).1 (r.registerInPlace m).1 ∧
      (t.register m).2 = (r.registerInPlace m).2 := by
  rw [registerInPlace_eq]
  cases hr : r.register m with
  | ok r' =>
    obtain ⟨t', ht, hnext⟩ := h.register_of_ok hr
    rw [ht]
    exact ⟨hnext, rfl⟩
  | error fault =>
    rw [h.register_of_error hr]
    exact ⟨h, rfl⟩

theorem inStep_ofModels (offered : List Model) :
    InStep (ofModels offered) (Registry.ofModels offered) := by
  induction offered using List.reverseRecOn with
  | nil => exact ⟨rfl, .empty, Catalog.Tabled.inStep_ofOffers []⟩
  | append_singleton offered m ih =>
    rw [ofModels_concat, Registry.ofModels_concat]
    exact (ih.register m).1

end Tabled

/-! ### Conformance -/

/-- What a registry with its tables says after the models were offered to it, by the plain list of
these, and what becomes of the model that is offered next. -/
structure Conforms (t : Tabled) (r : Registry) (offered : List Model) : Prop where
  inStep : t.InStep r
  get?_eq : ∀ id, t.get? id = r.get? id
  models_eq : t.models.toList = kept offered
  nodup_ids : (t.models.toList.map Model.id).Nodup
  /-- The index is exact, and no look-up goes beyond the models. -/
  index_eq : ∀ (id : String) (i : Nat),
    t.index[id]? = some i ↔ t.models[i]?.map Model.id = some id
  index_lt : ∀ (id : String) (i : Nat), t.index[id]? = some i → i < t.models.size
  get?_eq_some_iff : ∀ id m, t.get? id = some m ↔ m ∈ t.models.toList ∧ m.id = id
  get?_eq_none_iff : ∀ id, t.get? id = none ↔ ∀ m ∈ t.models.toList, m.id ≠ id
  relations_eq :
    t.relations.order.toList = (t.models.toList.flatMap Model.relations).eraseDups
  nodup_relations : (t.relations.order.toList.map Relation.id).Nodup
  relation?_eq_some_iff : ∀ id s,
    t.relation? id = some s ↔ s ∈ t.relations.order.toList ∧ s.id = id
  relation?_eq : ∀ m ∈ t.models.toList, ∀ own ∈ m.relations, t.relation? own.id = some own
  accepts : ∀ m, Fits t.models.toList m →
    ∃ t' r', t.register m = (t', none) ∧ r.register m = .ok r' ∧ t'.InStep r' ∧
      t'.models.toList = t.models.toList ++ [m]
  refuses : ∀ m, ¬Fits t.models.toList m →
    ∃ fault, t.register m = (t, some fault) ∧ r.register m = .error fault

/-- After any sequence of offers a registry accepts just the models that fit those it holds, and is
left as it was by all others. It holds the accepted models in their order and finds each by way of
its place; it holds their relations in the order of first contribution, each under its identifier
once and with the labels on which all models agree. -/
theorem conforms_ofModels (offered : List Model) :
    Conforms (Tabled.ofModels offered) (ofModels offered) offered := by
  have h : Holds (ofModels offered) (kept offered) := holds_ofModels offered
  have hstep : (Tabled.ofModels offered).InStep (ofModels offered) := Tabled.inStep_ofModels offered
  have hmodels : (Tabled.ofModels offered).models.toList = kept offered :=
    hstep.models_eq.trans h.models_eq
  have hrelation : ∀ id s, (Tabled.ofModels offered).relation? id = some s ↔
      s ∈ (Tabled.ofModels offered).relations.order.toList ∧ s.id = id := by
    intro id s
    rw [hstep.relation?_eq, hstep.relations.order_eq]
    exact Listing.find?_eq_some_iff
  constructor
  case inStep => exact hstep
  case get?_eq => exact hstep.get?_eq
  case models_eq => exact hmodels
  case nodup_ids => exact hstep.located.nodup
  case index_eq => exact hstep.located
  case index_lt => exact fun _ _ => hstep.located.lt_size
  case get?_eq_some_iff => exact fun _ _ => hstep.located.bind_eq_some_iff
  case get?_eq_none_iff => exact fun _ => hstep.located.bind_eq_none_iff
  case relations_eq =>
    rw [hstep.relations.order_eq, h.relations_eq,
      Catalog.entries_ofList_of_consistent h.consistent, hmodels]
  case nodup_relations =>
    rw [hstep.relations.order_eq]
    exact (ofModels offered).relations.nodup
  case relation?_eq_some_iff => exact hrelation
  case relation?_eq =>
    intro m hm own hown
    rw [hmodels] at hm
    rw [hrelation, hstep.relations.order_eq]
    exact ⟨h.mem_relations.2 ⟨m, hm, hown⟩, rfl⟩
  case accepts =>
    intro m hm
    rw [hmodels] at hm
    obtain ⟨r', hr, hnext⟩ := h.register_fits hm
    obtain ⟨t', ht, hstep'⟩ := hstep.register_of_ok hr
    exact ⟨t', r', ht, hr, hstep', by rw [hstep'.models_eq, hnext.models_eq, hmodels]⟩
  case refuses =>
    intro m hm
    rw [hmodels] at hm
    obtain ⟨fault, hr⟩ := h.register_not_fits hm
    exact ⟨fault, hstep.register_of_error hr, hr⟩

end Registry

end RelGraph
