import RelGraph.Proofs.Catalog.Offers
import RelGraph.Proofs.RelationSet

/-! Relation sets that are written down and read again. A descriptor may list identifiers in any
order and several times. It is resolved when the catalog binds all of them, and the first one that
is not bound is the fault otherwise. The resolved set is described with its identifiers in order,
each once, and from there nothing changes any more. -/

namespace RelGraph

/-! ### Unbound identifiers -/

namespace Catalog

variable {c : Catalog} {id : String} {ids : List String}

/-- Why an identifier that is not bound is refused. -/
def unboundFault (id : String) : Fault :=
  if Text.isBlank id then .missingRelationId else .unknownRelation id

/-- A blank identifier is a fault of what was configured. -/
theorem family_unboundFault (id : String) :
    (unboundFault id).family = if Text.isBlank id then .configuration else .unknownRelation := by
  rw [unboundFault, apply_ite Fault.family]
  rfl

theorem resolve_of_notMem_keys (h : id ∉ c.keys) : c.resolve id = .error (unboundFault id) := by
  rw [unboundFault]
  by_cases hblank : Text.isBlank id = true
  · rw [if_pos hblank, resolve_of_isBlank hblank]
  · rw [if_neg hblank]
    exact resolve_of_get?_eq_none (by simpa using hblank) (Listing.find?_eq_none_iff.2 h)

/-- The first identifier that is not bound is the fault. -/
theorem resolveAll_of_find? (h : ids.find? (· ∉ c.keys) = some id) :
    c.resolveAll ids = .error (unboundFault id) := by
  induction ids with
  | nil => cases h
  | cons i rest ih =>
    rw [resolveAll, List.mapM_cons]
    by_cases hi : i ∈ c.keys
    · rw [List.find?_cons_of_neg (by simpa using hi)] at h
      obtain ⟨r, hr, hid⟩ := List.mem_map.1 hi
      have hrest : rest.mapM c.resolve = .error (unboundFault id) := ih h
      rw [resolve_eq_ok.2 ⟨hr, hid⟩, hrest]
      rfl
    · rw [List.find?_cons_of_pos (by simpa using hi)] at h
      rw [resolve_of_notMem_keys hi, Option.some.inj h]
      rfl

theorem resolveAll_eq_error_iff {fault : Fault} :
    c.resolveAll ids = .error fault ↔
      ∃ id, ids.find? (· ∉ c.keys) = some id ∧ fault = unboundFault id := by
  cases h : ids.find? (· ∉ c.keys) with
  | some id => simp [resolveAll_of_find? h, eq_comm]
  | none =>
    have hbound : ∀ id ∈ ids, id ∈ c.keys := by simpa using List.find?_eq_none.1 h
    obtain ⟨l, hl⟩ := exists_resolveAll_iff.2 hbound
    simp [hl]

end Catalog

/-! ### Descriptors -/

namespace RelationSet

variable {s : RelationSet} {d : Descriptor} {c : Catalog}

/-- The texts `ids` are those of the list `l` in ascending code-point order, each once. -/
structure Sorts (ids l : List String) : Prop where
  ascending : ids.Pairwise (· < ·)
  mem_iff : ∀ id, id ∈ ids ↔ id ∈ l

theorem resolve_eq_ok_iff :
    d.resolve c = .ok s ↔ ∃ l, c.resolveAll d.relations = .ok l ∧ ofList d.name l = s := by
  rw [Descriptor.resolve, Outcome.bind_eq_ok]
  simp only [Outcome.pure_eq_ok]

theorem exists_resolve_iff_bound : (∃ s, d.resolve c = .ok s) ↔ ∀ id ∈ d.relations, id ∈ c.keys := by
  rw [← Catalog.exists_resolveAll_iff]
  simp only [resolve_eq_ok_iff]
  constructor
  · rintro ⟨_, l, hl, -⟩
    exact ⟨l, hl⟩
  · rintro ⟨l, hl⟩
    exact ⟨_, l, hl, rfl⟩

theorem resolve_eq_error_iff {fault : Fault} :
    d.resolve c = .error fault ↔
      ∃ id, d.relations.find? (· ∉ c.keys) = some id ∧ fault = Catalog.unboundFault id := by
  rw [← Catalog.resolveAll_eq_error_iff, Descriptor.resolve, Outcome.bind_eq_error]
  simp [pure, Except.pure]

theorem sorts_describe (h : d.resolve c = .ok s) : Sorts s.describe.relations d.relations := by
  obtain ⟨l, hl, rfl⟩ := resolve_eq_ok_iff.1 h
  refine ⟨List.pairwise_map.2 (Ascending.ofList l).ascending, fun id => ?_⟩
  rw [← (Catalog.resolveAll_eq_ok.1 hl).1]
  exact Ascending.mem_keys_ofList

/-- A set of relations of the catalog is resolved from its description. -/
theorem resolve_describe_of_mem (h : ∀ r ∈ s.members.entries, r ∈ c.entries) :
    s.describe.resolve c = .ok s := by
  have hall : c.resolveAll s.ids = .ok s.members.entries := Catalog.resolveAll_eq_ok.2 ⟨rfl, h⟩
  refine resolve_eq_ok_iff.2 ⟨_, hall, ?_⟩
  rw [ofList, Ascending.ofList_entries]
  rfl

theorem resolve_describe_of_resolve (h : d.resolve c = .ok s) : s.describe.resolve c = .ok s := by
  obtain ⟨l, hl, rfl⟩ := resolve_eq_ok_iff.1 h
  refine resolve_describe_of_mem fun r hr => ?_
  exact (Catalog.resolveAll_eq_ok.1 hl).2 r (Ascending.mem_of_mem_ofList hr)

/-- A set comes back from its description with its identifiers and its name, and with the labels
that the catalog has for it. -/
theorem exists_resolve_describe (h : ∀ id ∈ s.ids, id ∈ c.keys) :
    ∃ t, s.describe.resolve c = .ok t ∧ t.describe = s.describe := by
  obtain ⟨l, hl⟩ := Catalog.exists_resolveAll_iff.2 h
  have hids : l.map Relation.id = s.ids := (Catalog.resolveAll_eq_ok.1 hl).1
  have hascending : l.Pairwise (Relation.id · < Relation.id ·) := by
    rw [← List.pairwise_map, hids]
    exact List.pairwise_map.2 s.members.ascending
  refine ⟨ofList s.name l, resolve_eq_ok_iff.2 ⟨l, hl, rfl⟩, ?_⟩
  have hkeys : (ofList s.name l).ids = s.ids := by
    rw [ids, Ascending.keys, ofList, Ascending.entries_ofList hascending, hids]
  rw [describe, hkeys]
  rfl

/-- Every set is equal to what a catalog that binds its identifiers makes of its description, and
has the same name. A descriptor is resolved when all its identifiers are bound; its first one that
is not bound is the fault otherwise. What it is resolved to has its name and its identifiers sorted,
and comes back from its description as it is. -/
theorem describe_resolve_normalizes :
    (∀ (s : RelationSet) (c : Catalog), (∀ id ∈ s.ids, id ∈ c.keys) →
      ∃ t, s.describe.resolve c = .ok t ∧ t.sameMembers s = true ∧ t.name = s.name) ∧
    (∀ (d : Descriptor) (c : Catalog),
      ((∃ s, d.resolve c = .ok s) ↔ ∀ id ∈ d.relations, id ∈ c.keys) ∧
      ∀ fault, d.resolve c = .error fault ↔
        ∃ id, d.relations.find? (· ∉ c.keys) = some id ∧ fault = Catalog.unboundFault id) ∧
    (∀ id, (Catalog.unboundFault id).family =
      if Text.isBlank id then .configuration else .unknownRelation) ∧
    ∀ (d : Descriptor) (c : Catalog) (s : RelationSet), d.resolve c = .ok s →
      s.describe.name = d.name ∧ Sorts s.describe.relations d.relations ∧
        s.describe.resolve c = .ok s := by
  refine ⟨fun s c h => ?_, fun d c => ⟨exists_resolve_iff_bound, fun _ => resolve_eq_error_iff⟩,
    Catalog.family_unboundFault, fun d c s h => ⟨?_, sorts_describe h,
      resolve_describe_of_resolve h⟩⟩
  · obtain ⟨t, ht, hdescribe⟩ := exists_resolve_describe h
    have hids : t.ids = s.ids := congrArg Descriptor.relations hdescribe
    exact ⟨t, ht, by rw [sameMembers, hids, beq_self_eq_true], congrArg Descriptor.name hdescribe⟩
  · obtain ⟨l, -, rfl⟩ := resolve_eq_ok_iff.1 h
    rfl

/-- A catalog of two relations. -/
def catalogSample : Catalog :=
  .ofList [⟨"imports", "imports", "imported by", rfl⟩, ⟨"extends", "extends", "extended by", rfl⟩]

/-- A set with a blank name and a relation that has other labels in the catalog. -/
def blankNamedSample : RelationSet := ofList " " [⟨"imports", "loads", "loaded by", rfl⟩]

theorem describe_resolve_normalizes_sample :
    (∀ id ∈ blankNamedSample.ids, id ∈ catalogSample.keys) ∧
    (∃ t, blankNamedSample.describe.resolve catalogSample = .ok t ∧
      t.sameMembers blankNamedSample = true ∧ t.name = " ") ∧
    (∃ s, Descriptor.resolve ⟨"", ["imports", "extends", "imports"]⟩ catalogSample = .ok s ∧
      s.describe.name = "" ∧ Sorts s.describe.relations ["imports", "extends", "imports"] ∧
      s.describe.resolve catalogSample = .ok s) ∧
    Descriptor.resolve ⟨"", ["extends", "  ", "calls"]⟩ catalogSample =
      .error .missingRelationId := by
  obtain ⟨hround, hdescriptor, -, hnormal⟩ := describe_resolve_normalizes
  have hbound : ∀ id ∈ blankNamedSample.ids, id ∈ catalogSample.keys := by decide
  obtain ⟨s, hs⟩ : ∃ s, Descriptor.resolve ⟨"", ["imports", "extends", "imports"]⟩ catalogSample =
      .ok s := (hdescriptor _ _).1.2 (by decide)
  exact ⟨hbound, hround _ _ hbound, ⟨s, hs, hnormal _ _ s hs⟩,
    ((hdescriptor _ _).2 _).2 ⟨"  ", by decide, by decide⟩⟩

end RelationSet

end RelGraph
