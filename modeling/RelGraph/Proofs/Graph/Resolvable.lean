import RelGraph.Proofs.Catalog.Offers
import RelGraph.Proofs.Graph.Snapshots

/-! Which snapshots resolve, and to what. A snapshot may list a node twice, join nodes that it does
not list and name relations that nobody knows. Its nodes are merged first, so what is wrong with an
edge depends on the catalog and on the listed identifiers alone, and the first edge with something
wrong decides. The graph of a sound snapshot has each node once, so a second resolution finds
nothing more to merge. -/

namespace RelGraph

/-- What is wrong with an edge between nodes with these identifiers: first its relation, then its
source, then its target. -/
def EdgeRecord.fault? (c : Catalog) (ids : List String) (e : EdgeRecord) : Option Fault :=
  if Text.isBlank e.relation then some .missingRelationId
  else if e.relation ∉ c.keys then some (.unknownRelation e.relation)
  else if e.source ∉ ids then some (.unknownNode e.source)
  else if e.target ∉ ids then some (.unknownNode e.target)
  else none

namespace Snapshot

open RelGraph.Graph

/-- The identifiers of the listed nodes, in their order. -/
def ids (s : Snapshot) : List String := s.nodes.map Node.id

variable {c : Catalog} {g : Graph} {e : EdgeRecord} {known : List String} {f : Fault}

/-! ### One edge -/

/-- A bound identifier is that of a relation, so it is not blank. -/
theorem isBlank_of_mem_keys {id : String} (h : id ∈ c.keys) : Text.isBlank id = false := by
  obtain ⟨r, -, rfl⟩ := List.mem_map.1 h
  exact r.id_not_blank

theorem fault?_eq_none_iff :
    e.fault? c known = none ↔ e.relation ∈ c.keys ∧ e.source ∈ known ∧ e.target ∈ known := by
  unfold EdgeRecord.fault?
  constructor
  · intro h
    split_ifs at h with hblank hbound hsource htarget
    exact ⟨hbound, hsource, htarget⟩
  · rintro ⟨hbound, hsource, htarget⟩
    simp [isBlank_of_mem_keys hbound, hbound, hsource, htarget]

/-- A record without a fault is that of an edge whose relation is in the catalog. -/
theorem exists_edge_of_bound (h : e.relation ∈ c.keys) :
    ∃ d : Edge, d.record = e ∧ Bound c d := by
  obtain ⟨r, hr, hid⟩ := List.mem_map.1 h
  refine ⟨⟨e.source, e.target, r⟩, ?_, r, Listing.find?_eq_some_iff.2 ⟨hr, rfl⟩, rfl, rfl⟩
  show EdgeRecord.mk e.source e.target r.id = e
  rw [hid]

theorem addRecord_of_fault (h : e.fault? c g.ids = some f) : addRecord c g e = .error f := by
  rw [addRecord, Outcome.bind_eq_error]
  by_cases hbound : e.relation ∈ c.keys
  · -- the relation is found, so an end is missing
    obtain ⟨r, hr, hid⟩ := List.mem_map.1 hbound
    refine .inr ⟨r, Catalog.resolve_eq_ok.2 ⟨hr, hid⟩, ?_⟩
    simp only [EdgeRecord.fault?, isBlank_of_mem_keys hbound, hbound, Bool.false_eq_true, not_true,
      if_false] at h
    split_ifs at h with hsource htarget
    · rw [addEdge_eq_error fun hends => htarget hends.2, if_pos hsource]
      exact congrArg Except.error (Option.some.inj h)
    · rw [addEdge_eq_error fun hends => hsource hends.1, if_neg hsource]
      exact congrArg Except.error (Option.some.inj h)
  · left
    unfold EdgeRecord.fault? at h
    by_cases hblank : Text.isBlank e.relation = true
    · rw [if_pos hblank] at h
      cases h
      exact Catalog.resolve_of_isBlank hblank
    · rw [if_neg hblank, if_pos hbound] at h
      cases h
      exact Catalog.resolve_of_get?_eq_none (by simpa using hblank)
        (Listing.find?_eq_none_iff.2 hbound)

/-! ### All edges -/

theorem exists_edges_of_bound {records : List EdgeRecord} (h : ∀ e ∈ records, e.relation ∈ c.keys) :
    ∃ edges : List Edge, edges.map Edge.record = records ∧ ∀ d ∈ edges, Bound c d := by
  induction records with
  | nil => exact ⟨[], rfl, by simp⟩
  | cons e rest ih =>
    rw [List.forall_mem_cons] at h
    obtain ⟨d, hd, hbound⟩ := exists_edge_of_bound h.1
    obtain ⟨edges, hedges, hrest⟩ := ih h.2
    exact ⟨d :: edges, by rw [List.map_cons, hd, hedges], List.forall_mem_cons.2 ⟨hbound, hrest⟩⟩

/-- Records without a fault are all added, and the relations of the new edges are in the catalog. -/
theorem foldlM_addRecord_of_sound {records : List EdgeRecord}
    (h : ∀ e ∈ records, e.fault? c g.ids = none) :
    ∃ (g' : Graph) (edges : List Edge), records.foldlM (addRecord c) g = .ok g' ∧
      edges.map Edge.record = records ∧ (∀ d ∈ edges, Bound c d) ∧
      g'.nodes = g.nodes ∧ g'.edges = g.edges ++ edges := by
  obtain ⟨edges, hedges, hbound⟩ :=
    exists_edges_of_bound fun e he => (fault?_eq_none_iff.1 (h e he)).1
  have hends : ∀ d ∈ edges, d.source ∈ g.ids ∧ d.target ∈ g.ids := by
    intro d hd
    have hrecord : d.record ∈ records := hedges ▸ List.mem_map_of_mem hd
    exact (fault?_eq_none_iff.1 (h _ hrecord)).2
  obtain ⟨g', hg, hnodes, hadded⟩ := foldlM_addRecord hbound hends
  exact ⟨g', edges, hedges ▸ hg, hedges, hbound, hnodes, hadded⟩

/-- The first record with a fault decides. -/
theorem foldlM_addRecord_of_fault {records : List EdgeRecord}
    (h : records.findSome? (·.fault? c g.ids) = some f) :
    records.foldlM (addRecord c) g = .error f := by
  induction records generalizing g with
  | nil => simp at h
  | cons e rest ih =>
    rw [List.foldlM_cons, Outcome.bind_eq_error]
    rw [List.findSome?_cons] at h
    cases he : e.fault? c g.ids with
    | some first =>
      rw [he] at h
      exact .inl (Option.some.inj h ▸ addRecord_of_fault he)
    | none =>
      rw [he] at h
      obtain ⟨g', -, hg, -, -, hnodes, -⟩ :=
        foldlM_addRecord_of_sound (List.forall_mem_singleton.2 he)
      have hstep : addRecord c g e = .ok g' := by simpa using hg
      have hids : g'.ids = g.ids := congrArg (List.map Node.id) hnodes
      exact .inr ⟨g', hstep, ih (hids ▸ h)⟩

/-! ### Merged nodes -/

theorem added_map_node (nodes : List Node) : Call.added (nodes.map Call.node) = nodes := by
  induction nodes with
  | nil => rfl
  | cons n rest ih => rw [List.map_cons, Call.added, ih]

/-- Nodes are merged by identifier: each stands where it was listed first, as it was listed last. -/
theorem records_merged (nodes : List Node) :
    Records (nodes.foldl addNode ∅) (nodes.map Call.node) := by
  have hcalls : nodes.foldl addNode ∅ = ofCalls (nodes.map Call.node) := by
    rw [ofCalls, List.foldl_map]
    rfl
  rw [hcalls]
  exact records_ofCalls _

theorem ids_merged (nodes : List Node) :
    (nodes.foldl addNode ∅).ids = (nodes.map Node.id).eraseDups := by
  rw [(records_merged nodes).ids_eq, Call.addedIds, added_map_node]

theorem mem_ids_merged {nodes : List Node} {id : String} :
    id ∈ (nodes.foldl addNode ∅).ids ↔ id ∈ nodes.map Node.id := by
  rw [ids_merged, List.mem_eraseDups]

/-- Merging leaves the identifiers that an edge is checked against as they were listed. -/
theorem fault?_merged (nodes : List Node) (e : EdgeRecord) :
    e.fault? c (nodes.foldl addNode ∅).ids = e.fault? c (nodes.map Node.id) := by
  simp only [EdgeRecord.fault?, mem_ids_merged]

/-! ### The whole -/

/-- What a snapshot becomes: its edges as they are, each node once, and a graph whose own snapshot
resolves to the same again. -/
structure Settles (s : Snapshot) (c : Catalog) (g : Graph) : Prop where
  edges_eq : g.snapshot.edges = s.edges
  ids_eq : g.snapshot.ids = s.ids.eraseDups
  last : ∀ n ∈ g.snapshot.nodes, s.nodes.findRev? (·.id == n.id) = some n
  again : ∃ g', g.snapshot.resolve c = .ok g' ∧ g'.snapshot = g.snapshot

theorem exists_settles {s : Snapshot} (h : ∀ e ∈ s.edges, e.fault? c s.ids = none) :
    ∃ g, s.resolve c = .ok g ∧ Settles s c g := by
  have hmerged := records_merged s.nodes
  obtain ⟨g, edges, hg, hrecords, hbound, hnodes, hedges⟩ :=
    foldlM_addRecord_of_sound (g := s.nodes.foldl addNode ∅)
      fun e he => (fault?_merged s.nodes e).trans (h e he)
  rw [edges_foldl_addNode] at hedges
  have hlist : g.edges = edges := hedges
  refine ⟨g, hg, ?_, ?_, ?_, ?_⟩
  · show g.edges.map Edge.record = s.edges
    rw [hlist, hrecords]
  · show g.nodes.map Node.id = s.ids.eraseDups
    rw [hnodes]
    exact ids_merged s.nodes
  · intro n hn
    have hlast := hmerged.last n (hnodes ▸ hn)
    rwa [added_map_node] at hlast
  · obtain ⟨g', hresolve, hnodes', hedges'⟩ := resolve_lists (hlist ▸ hbound)
    exact ⟨g', hresolve, by rw [snapshot, snapshot, hnodes', hedges']⟩

theorem resolve_of_fault {s : Snapshot} (h : s.edges.findSome? (·.fault? c s.ids) = some f) :
    s.resolve c = .error f := by
  apply foldlM_addRecord_of_fault
  simp only [fault?_merged]
  exact h

/-- A snapshot resolves exactly when the catalog binds the relation of each edge and the snapshot
lists its two ends; otherwise the fault is that of the first edge that has one. What it resolves to
has the edges of the snapshot and each of its nodes once, and stays the same from then on. -/
theorem resolves_or_first_fault (s : Snapshot) (c : Catalog) :
    ((∃ g, s.resolve c = .ok g) ↔
      ∀ e ∈ s.edges, e.relation ∈ c.keys ∧ e.source ∈ s.ids ∧ e.target ∈ s.ids) ∧
    (∀ f, s.resolve c = .error f ↔ s.edges.findSome? (·.fault? c s.ids) = some f) ∧
    ∀ g, s.resolve c = .ok g → Settles s c g := by
  cases hfault : s.edges.findSome? (·.fault? c s.ids) with
  | none =>
    have hsound := List.findSome?_eq_none_iff.1 hfault
    obtain ⟨g, hg, hsettles⟩ := exists_settles hsound
    refine ⟨⟨fun _ e he => fault?_eq_none_iff.1 (hsound e he), fun _ => ⟨g, hg⟩⟩, ?_, ?_⟩
    · simp [hg]
    · rintro g' hg'
      rw [hg, Except.ok.injEq] at hg'
      exact hg' ▸ hsettles
  | some f =>
    have hresolve := resolve_of_fault hfault
    obtain ⟨e, he, hf⟩ := List.exists_of_findSome?_eq_some hfault
    refine ⟨⟨?_, fun h => ?_⟩, ?_, ?_⟩
    · simp [hresolve]
    · rw [fault?_eq_none_iff.2 (h e he)] at hf
      cases hf
    · simp [hresolve]
    · simp [hresolve]

/-- A node that is listed again between its neighbours, a loop and two parallel edges. -/
def repeatedSample : Snapshot where
  nodes := [⟨"a", "function", "a"⟩, ⟨"b", "function", "b"⟩, ⟨"a", "module", "A"⟩]
  edges := [⟨"a", "b", "calls"⟩, ⟨"b", "b", "calls"⟩, ⟨"a", "b", "calls"⟩]

/-- An edge whose ends are both missing, and after it one with a blank relation. -/
def danglingSample : Snapshot where
  nodes := [⟨"a", "function", "a"⟩]
  edges := [⟨"a", "a", "calls"⟩, ⟨"b", "c", "calls"⟩, ⟨"a", "a", " "⟩]

theorem resolves_or_first_fault_sample :
    (∃ g, repeatedSample.resolve (Listing.ofList [sampleRelation]) = .ok g ∧
      Settles repeatedSample (Listing.ofList [sampleRelation]) g) ∧
    danglingSample.resolve (Listing.ofList [sampleRelation]) = .error (.unknownNode "b") := by
  obtain ⟨g, hg⟩ := (resolves_or_first_fault repeatedSample
    (Listing.ofList [sampleRelation])).1.2 (by decide)
  refine ⟨⟨g, hg, (resolves_or_first_fault _ _).2.2 g hg⟩, ?_⟩
  exact ((resolves_or_first_fault _ _).2.1 _).2 (by decide)

end Snapshot

end RelGraph
