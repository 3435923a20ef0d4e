import RelGraph.Proofs.Model

/-! Which contributions make up a model, and why others are refused. The identifier must not be
blank, no kind may be blank, and no kind and no relation identifier may come twice. A refusal tells
the first of these that fails: the identifier, else the first kind that is blank or came before,
else the first relation whose identifier came before. -/

namespace RelGraph

/-! ### First faults -/

section FirstFault

variable {α : Type} {key : α → String} {fault? : List String → α → Option Fault}
  {seen : List String} {fault : Fault}

/-- The first fault in a list. Each entry is looked at with the keys of the entries before it. -/
def firstFault? (key : α → String) (fault? : List String → α → Option Fault) (seen : List String) :
    List α → Option Fault
  | [] => none
  | a :: rest => (fault? seen a).or (firstFault? key fault? (key a :: seen) rest)

theorem firstFault?_append (l m : List α) :
    firstFault? key fault? seen (l ++ m) =
      (firstFault? key fault? seen l).or
        (firstFault? key fault? ((l.map key).reverse ++ seen) m) := by
  induction l generalizing seen with
  | nil => rfl
  | cons a rest ih =>
    rw [List.cons_append, firstFault?, firstFault?, ih, Option.or_assoc, List.map_cons,
      List.reverse_cons, List.append_assoc, List.singleton_append]

/-- A fault is that of an entry before which there is none. -/
theorem firstFault?_eq_some_iff {l : List α} :
    firstFault? key fault? seen l = some fault ↔
      ∃ before a after, l = before ++ a :: after ∧ firstFault? key fault? seen before = none ∧
        fault? ((before.map key).reverse ++ seen) a = some fault := by
  constructor
  · intro h
    induction l generalizing seen with
    | nil => cases h
    | cons a rest ih =>
      -- `seen` grows by the key of an entry without a fault, which then is one of those before
      rcases Option.or_eq_some_iff.1 h with ha | ⟨ha, hrest⟩
      · exact ⟨[], a, rest, rfl, rfl, ha⟩
      · obtain ⟨before, b, after, rfl, hbefore, hb⟩ := ih hrest
        refine ⟨a :: before, b, after, rfl, Option.or_eq_none_iff.2 ⟨ha, hbefore⟩, ?_⟩
        rwa [List.map_cons, List.reverse_cons, List.append_assoc, List.singleton_append]
  · rintro ⟨before, a, after, rfl, hbefore, ha⟩
    rw [firstFault?_append, hbefore, Option.none_or, firstFault?, ha, Option.some_or]

end FirstFault

namespace Model

variable {id : String} {kinds : List String} {relations : List Relation} {seen : List String}
  {fault : Fault}

/-! ### Kinds -/

/-- No kind is blank, and none comes twice. -/
structure KindsFit (kinds : List String) : Prop where
  not_blank : ∀ k ∈ kinds, Text.isBlank k = false
  nodup : kinds.Nodup

/-- The fault of a kind, after others that were seen. -/
def kindFaultAt? (id : String) (seen : List String) (k : String) : Option Fault :=
  if Text.isBlank k then some (.blankNodeKind id)
  else if k ∈ seen then some (.repeatedNodeKind id k)
  else none

theorem kindFault?_eq_firstFault? :
    kindFault? id seen kinds = firstFault? (fun k => k) (kindFaultAt? id) seen kinds := by
  induction kinds generalizing seen with
  | nil => rfl
  | cons k rest ih =>
    rw [kindFault?, firstFault?, kindFaultAt?, ih]
    split
    · rfl
    · split <;> rfl

theorem kindFault?_eq_none_iff_fit : kindFault? id [] kinds = none ↔ KindsFit kinds := by
  rw [kindFault?_eq_none_iff]
  constructor
  · rintro ⟨hkinds, hnodup⟩
    exact ⟨fun k hk => (hkinds k hk).1, hnodup⟩
  · rintro ⟨hblank, hnodup⟩
    exact ⟨fun k hk => ⟨hblank k hk, List.not_mem_nil⟩, hnodup⟩

theorem kindFaultAt?_eq_some_iff {k : String} :
    kindFaultAt? id seen k = some fault ↔
      Text.isBlank k = true ∧ fault = .blankNodeKind id ∨
        Text.isBlank k = false ∧ k ∈ seen ∧ fault = .repeatedNodeKind id k := by
  rw [kindFaultAt?]
  by_cases hblank : Text.isBlank k = true
  · simp [hblank, eq_comm]
  · by_cases hseen : k ∈ seen <;> simp [hblank, hseen, eq_comm]

/-- The fault is that of the first kind that is blank or came before. -/
theorem kindFault?_eq_some_iff :
    kindFault? id [] kinds = some fault ↔
      ∃ before k after, kinds = before ++ k :: after ∧ KindsFit before ∧
        (Text.isBlank k = true ∧ fault = .blankNodeKind id ∨
          Text.isBlank k = false ∧ k ∈ before ∧ fault = .repeatedNodeKind id k) := by
  rw [kindFault?_eq_firstFault?, firstFault?_eq_some_iff]
  simp only [← kindFault?_eq_firstFault?, kindFault?_eq_none_iff_fit, kindFaultAt?_eq_some_iff,
    List.map_id', List.append_nil, List.mem_reverse]

/-! ### Relations -/

/-- The fault of a relation, after others whose identifiers were seen. -/
def relationFaultAt? (id : String) (seen : List String) (r : Relation) : Option Fault :=
  if r.id ∈ seen then some (.repeatedRelation id r.id) else none

theorem relationFault?_eq_firstFault? :
    relationFault? id seen relations =
      firstFault? Relation.id (relationFaultAt? id) seen relations := by
  induction relations generalizing seen with
  | nil => rfl
  | cons r rest ih =>
    rw [relationFault?, firstFault?, relationFaultAt?, ih]
    split <;> rfl

theorem relationFault?_eq_none_iff_nodup :
    relationFault? id [] relations = none ↔ (relations.map Relation.id).Nodup := by
  simp [relationFault?_eq_none_iff]

/-- The fault is that of the first relation whose identifier came before. -/
theorem relationFault?_eq_some_iff :
    relationFault? id [] relations = some fault ↔
      ∃ before r after, relations = before ++ r :: after ∧ (before.map Relation.id).Nodup ∧
        r.id ∈ before.map Relation.id ∧ fault = .repeatedRelation id r.id := by
  rw [relationFault?_eq_firstFault?, firstFault?_eq_some_iff]
  simp only [← relationFault?_eq_firstFault?, relationFault?_eq_none_iff_nodup, relationFaultAt?,
    Option.ite_none_right_eq_some, Option.some.injEq, eq_comm (b := fault), List.append_nil,
    List.mem_reverse]

/-! ### Building -/

/-- The model has what was contributed to it, and nothing else. -/
structure MadeOf (m : Model) (id : String) (kinds : List String) (relations : List Relation) :
    Prop where
  id_eq : m.id = id
  kinds_perm : m.nodeKinds.entries.Perm kinds
  relations_eq : m.relations = relations
  hasNodeKind_iff : ∀ k, m.hasNodeKind k = true ↔ k ∈ kinds
  hasRelation_iff : ∀ i, m.hasRelation i = true ↔ i ∈ relations.map Relation.id

/-- The fault for which contributions are refused. What is looked at later counts only where nothing
before it is at fault. -/
inductive Refused (id : String) (kinds : List String) (relations : List Relation) : Fault → Prop
  | blankId (blank : Text.isBlank id = true) : Refused id kinds relations .blankModelId
  | blankKind {before after : List String} {k : String} (named : Text.isBlank id = false)
      (split : kinds = before ++ k :: after) (fit : KindsFit before)
      (blank : Text.isBlank k = true) : Refused id kinds relations (.blankNodeKind id)
  | repeatedKind {before after : List String} {k : String} (named : Text.isBlank id = false)
      (split : kinds = before ++ k :: after) (fit : KindsFit before)
      (not_blank : Text.isBlank k = false) (mem : k ∈ before) :
      Refused id kinds relations (.repeatedNodeKind id k)
  | repeatedRelation {before after : List Relation} {r : Relation}
      (named : Text.isBlank id = false) (fit : KindsFit kinds)
      (split : relations = before ++ r :: after) (nodup : (before.map Relation.id).Nodup)
      (mem : r.id ∈ before.map Relation.id) :
      Refused id kinds relations (.repeatedRelation id r.id)

theorem Refused.family (h : Refused id kinds relations fault) : fault.family = .configuration := by
  cases h <;> rfl

theorem exists_build_iff_fit :
    (∃ m, build id kinds relations = .ok m) ↔
      Text.isBlank id = false ∧ KindsFit kinds ∧ (relations.map Relation.id).Nodup := by
  rw [exists_build_iff]
  exact and_congr_right fun _ => and_congr_left fun _ => ⟨fun h => ⟨h.1, h.2⟩, fun h => ⟨h.1, h.2⟩⟩

theorem madeOf_of_build {m : Model} (h : build id kinds relations = .ok m) :
    m.MadeOf id kinds relations := by
  obtain ⟨-, hfit, -⟩ := exists_build_iff_fit.1 ⟨m, h⟩
  obtain ⟨hid, hkinds, hrelations⟩ := of_build h
  refine ⟨hid, ?_, hrelations, fun k => ?_, fun i => ?_⟩
  · rw [hkinds]
    exact NameSet.entries_ofNames_perm hfit.nodup
  · rw [hasNodeKind_iff, hkinds, NameSet.mem_ofNames]
  · rw [hasRelation_iff, relationKinds, hrelations]

theorem build_eq_error_iff :
    build id kinds relations = .error fault ↔
      Text.isBlank id = true ∧ fault = .blankModelId ∨
        Text.isBlank id = false ∧ (kindFault? id [] kinds = some fault ∨
          kindFault? id [] kinds = none ∧ relationFault? id [] relations = some fault) := by
  rw [build]
  split
  · next hid =>
    split
    · next hk => simp [hid, hk]
    · next hk => split <;> next hr => simp [hid, hk, hr]
  · next hid => simp [hid, eq_comm]

theorem build_eq_error_iff_refused :
    build id kinds relations = .error fault ↔ Refused id kinds relations fault := by
  rw [build_eq_error_iff, kindFault?_eq_some_iff, relationFault?_eq_some_iff,
    kindFault?_eq_none_iff_fit]
  constructor
  · rintro (⟨hblank, rfl⟩ | ⟨hid, ⟨before, k, after, hsplit, hfit, hk⟩ |
      ⟨hfit, before, r, after, hsplit, hnodup, hmem, rfl⟩⟩)
    · exact .blankId hblank
    · rcases hk with ⟨hblank, rfl⟩ | ⟨hblank, hmem, rfl⟩
      · exact .blankKind hid hsplit hfit hblank
      · exact .repeatedKind hid hsplit hfit hblank hmem
    · exact .repeatedRelation hid hfit hsplit hnodup hmem
  · intro h
    cases h with
    | blankId hblank => exact .inl ⟨hblank, rfl⟩
    | blankKind hid hsplit hfit hblank =>
      exact .inr ⟨hid, .inl ⟨_, _, _, hsplit, hfit, .inl ⟨hblank, rfl⟩⟩⟩
    | repeatedKind hid hsplit hfit hblank hmem =>
      exact .inr ⟨hid, .inl ⟨_, _, _, hsplit, hfit, .inr ⟨hblank, hmem, rfl⟩⟩⟩
    | repeatedRelation hid hfit hsplit hnodup hmem =>
      exact .inr ⟨hid, .inr ⟨hfit, _, _, _, hsplit, hnodup, hmem, rfl⟩⟩

/-- Neither the order of the contributions nor a label decides whether there is a model. -/
theorem exists_build_iff_of_perm {kinds' : List String} {relations' : List Relation}
    (hkinds : kinds.Perm kinds')
    (hrelations : (relations.map Relation.id).Perm (relations'.map Relation.id)) :
    (∃ m, build id kinds relations = .ok m) ↔ ∃ m, build id kinds' relations' = .ok m := by
  rw [exists_build_iff, exists_build_iff, hkinds.nodup_iff, hrelations.nodup_iff]
  simp only [hkinds.mem_iff]

/-- A model is built exactly from an identifier that is not blank, distinct kinds of which none is
blank, and relations with distinct identifiers, in whatever order they come and whatever the labels
are. The model has what was contributed to it and nothing else. Other contributions are refused for
how they are configured: for a blank identifier, else for the first kind that is blank or came
before, else for the first relation whose identifier came before. -/
theorem build_accepts_and_refuses (id : String) (kinds : List String) (relations : List Relation) :
    ((∃ m, build id kinds relations = .ok m) ↔
      Text.isBlank id = false ∧ KindsFit kinds ∧ (relations.map Relation.id).Nodup) ∧
    (∀ kinds' relations', kinds.Perm kinds' →
      (relations.map Relation.id).Perm (relations'.map Relation.id) →
        ((∃ m, build id kinds relations = .ok m) ↔ ∃ m, build id kinds' relations' = .ok m)) ∧
    (∀ m, build id kinds relations = .ok m → m.MadeOf id kinds relations) ∧
    ∀ fault, (build id kinds relations = .error fault ↔ Refused id kinds relations fault) ∧
      (build id kinds relations = .error fault → fault.family = .configuration) :=
  ⟨exists_build_iff_fit, fun _ _ => exists_build_iff_of_perm, fun _ => madeOf_of_build,
    fun _ => ⟨build_eq_error_iff_refused, fun h => (build_eq_error_iff_refused.1 h).family⟩⟩

theorem build_accepts_and_refuses_sample :
    let calls : Relation := ⟨"calls", "calls", "called by", rfl⟩
    let invokes : Relation := ⟨"calls", "invokes", "invoked by", rfl⟩
    let owns : Relation := ⟨"owns", "owns", "owned by", rfl⟩
    (∃ m, build "java" ["type", "method"] [calls, owns] = .ok m ∧
      m.MadeOf "java" ["type", "method"] [calls, owns]) ∧
    (["type", "method"].Perm ["method", "type"] ∧
      ([calls, owns].map Relation.id).Perm ([owns, invokes].map Relation.id) ∧
      ∃ m, build "java" ["method", "type"] [owns, invokes] = .ok m) ∧
    build "java" ["type", "method", "type", " "] [calls, invokes] =
      .error (.repeatedNodeKind "java" "type") ∧
    (Fault.repeatedNodeKind "java" "type").family = .configuration := by
  intro calls invokes owns
  obtain ⟨haccepted, hperm, hmade, -⟩ :=
    build_accepts_and_refuses "java" ["type", "method"] [calls, owns]
  obtain ⟨-, -, -, hrefused⟩ :=
    build_accepts_and_refuses "java" ["type", "method", "type", " "] [calls, invokes]
  have hbuilt : ∃ m, build "java" ["type", "method"] [calls, owns] = .ok m :=
    haccepted.2 ⟨rfl, ⟨by decide, by decide⟩, by decide⟩
  have hkinds : ["type", "method"].Perm ["method", "type"] := by decide
  have hrelations : ([calls, owns].map Relation.id).Perm ([owns, invokes].map Relation.id) := by
    decide
  have hsplit : ["type", "method", "type", " "] = ["type", "method"] ++ "type" :: [" "] := rfl
  have herror := (hrefused _).1.2
    (.repeatedKind rfl hsplit ⟨by decide, by decide⟩ rfl (by decide))
  obtain ⟨m, hm⟩ := hbuilt
  exact ⟨⟨m, hm, hmade m hm⟩, ⟨hkinds, hrelations, (hperm _ _ hkinds hrelations).1 ⟨m, hm⟩⟩,
    herror, (hrefused _).2 herror⟩

end Model

end RelGraph
