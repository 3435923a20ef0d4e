import RelGraph.Proofs.Pipeline

/-! The custom filters that an evaluation asks. A custom filter stands at an address in a pipeline,
which names on every level the place of the part to go into. The evaluation comes to an address when
on every level the parts before it let it go on: they include the node in a conjunction or a
pipeline and exclude it in a disjunction. The filters at such addresses are asked, each once, in the
order of their addresses. -/

namespace RelGraph

namespace Stage

variable {g : Graph} {id : String} {s : Stage} {i : ℕ} {path : List ℕ}

/-! ### Parts and addresses -/

/-- The stages in a stage, in the order in which they are tried. -/
def parts : Stage → List Stage
  | not stage => [stage]
  | allOf stages | anyOf stages | nested _ stages => stages
  | kinds _ | namePattern _ | members _ | count _ _ | custom _ => []

/-- The verdict of a part with which a stage goes on to the next part. -/
def goesOn : Stage → Bool
  | anyOf _ => false
  | _ => true

/-- The evaluation of a stage comes to the stage at an address in it: on every level the parts that
stand before were tried and let it go on. -/
inductive Reaches (g : Graph) (id : String) : Stage → List ℕ → Stage → Prop
  | here (s : Stage) : Reaches g id s [] s
  | part {s t u : Stage} {i : ℕ} {path : List ℕ} (place : s.parts[i]? = some t)
    (before : ∀ r ∈ s.parts.take i, r.includes g id = s.goesOn) (h : Reaches g id t path u) :
    Reaches g id s (i :: path) u

/-- Induction over the parts of a stage. -/
@[elab_as_elim]
theorem parts_induction {motive : Stage → Prop}
    (parts : ∀ s, (∀ t ∈ s.parts, motive t) → motive s) (s : Stage) : motive s :=
  Stage.rec (motive_2 := fun stages => ∀ s ∈ stages, motive s)
    (fun _ => parts _ (by simp [Stage.parts])) (fun _ => parts _ (by simp [Stage.parts]))
    (fun _ => parts _ (by simp [Stage.parts])) (fun _ _ => parts _ (by simp [Stage.parts]))
    (fun _ h => parts _ (by simpa [Stage.parts] using h)) (fun _ h => parts _ h)
    (fun _ h => parts _ h) (fun _ _ h => parts _ h) (fun _ => parts _ (by simp [Stage.parts]))
    (by simp) (fun _ _ hs hrest => List.forall_mem_cons.2 ⟨hs, hrest⟩) s

/-! ### Calls -/

/-- A custom filter that is asked, with its address. -/
structure Call where
  address : List ℕ
  filter : CustomFilter

namespace Call

def tag (c : Call) : ℕ := c.filter.tag

/-- The call as it is seen from the stage in which the asked stage is part `i`. -/
def under (i : ℕ) (c : Call) : Call := ⟨i :: c.address, c.filter⟩

/-- The address of the first call comes first, place by place. -/
def Before (c d : Call) : Prop := c.address < d.address

theorem before_under_iff {c d : Call} : (c.under i).Before (d.under i) ↔ c.Before d := by
  simp [Before, under]

theorem before_under_of_lt {j : ℕ} (h : i < j) (c d : Call) : (c.under i).Before (d.under j) :=
  List.cons_lt_cons_iff.2 (.inl h)

end Call

/-- The calls of one evaluation of a stage. -/
def calls (g : Graph) (id : String) : Stage → List Call
  | custom filter => [⟨[], filter⟩]
  | not stage => (calls g id stage).map (.under 0)
  | allOf stages | nested _ stages => tried true 0 stages
  | anyOf stages => tried false 0 stages
  | kinds _ | namePattern _ | members _ | count _ _ => []
where
  /-- The calls of the parts from place `i` on, up to the first one that has another verdict. -/
  tried (verdict : Bool) (i : ℕ) : List Stage → List Call
    | [] => []
    | s :: rest =>
      (calls g id s).map (.under i) ++
        if includes g id s = verdict then tried verdict (i + 1) rest else []

theorem calls_eq_tried (h : ∀ filter, s ≠ .custom filter) :
    calls g id s = calls.tried g id s.goesOn 0 s.parts := by
  cases s with
  | custom filter => exact absurd rfl (h filter)
  | not stage => simp [calls, calls.tried, parts]
  | kinds | namePattern | members | count | allOf | anyOf | nested => rfl

theorem mem_tried_iff {verdict : Bool} {stages : List Stage} {c : Call} :
    c ∈ calls.tried g id verdict i stages ↔
      ∃ k s, stages[k]? = some s ∧ (∀ r ∈ stages.take k, r.includes g id = verdict) ∧
        ∃ d ∈ calls g id s, d.under (i + k) = c := by
  induction stages generalizing i with
  | nil => simp [calls.tried]
  | cons s rest ih =>
    rw [calls.tried, List.mem_append, List.mem_map]
    constructor
    · rintro (⟨d, hd, rfl⟩ | hrest)
      · exact ⟨0, s, rfl, by simp, d, hd, rfl⟩
      · split at hrest
        · next hs =>
          obtain ⟨k, t, ht, hbefore, d, hd, rfl⟩ := ih.1 hrest
          refine ⟨k + 1, t, ht, ?_, d, hd, by rw [Nat.add_right_comm, Nat.add_assoc]⟩
          rw [List.take_succ_cons]
          exact List.forall_mem_cons.2 ⟨hs, hbefore⟩
        · cases hrest
    · rintro ⟨k, t, ht, hbefore, d, hd, rfl⟩
      cases k with
      | zero =>
        obtain rfl : s = t := Option.some.inj ht
        exact .inl ⟨d, hd, rfl⟩
      | succ k =>
        rw [List.take_succ_cons, List.forall_mem_cons] at hbefore
        rw [if_pos hbefore.1, ih]
        exact .inr ⟨k, t, ht, hbefore.2, d, hd, by rw [Nat.add_right_comm, Nat.add_assoc]⟩

/-- The calls are those of the custom filters that the evaluation comes to. -/
theorem mem_calls_iff {filter : CustomFilter} :
    ⟨path, filter⟩ ∈ calls g id s ↔ Reaches g id s path (.custom filter) := by
  induction s using parts_induction generalizing path with
  | parts s ih =>
    by_cases hs : ∃ f, s = .custom f
    · obtain ⟨f, rfl⟩ := hs
      rw [calls, List.mem_singleton]
      constructor
      · rintro ⟨⟩
        exact .here _
      · rintro (_ | ⟨place, -, -⟩)
        · rfl
        · simp [parts] at place
    · rw [calls_eq_tried (not_exists.1 hs), mem_tried_iff]
      simp only [Nat.zero_add]
      constructor
      · rintro ⟨k, t, place, hbefore, ⟨rest, f⟩, hd, hcall⟩
        obtain ⟨rfl, rfl⟩ : k :: rest = path ∧ f = filter := by simpa [Call.under] using hcall
        exact .part place hbefore ((ih t (List.mem_of_getElem? place)).1 hd)
      · rintro (_ | ⟨place, hbefore, h⟩)
        · exact absurd ⟨filter, rfl⟩ hs
        · exact ⟨_, _, place, hbefore, _, (ih _ (List.mem_of_getElem? place)).2 h, rfl⟩

theorem pairwise_tried {verdict : Bool} {stages : List Stage}
    (h : ∀ s ∈ stages, (calls g id s).Pairwise Call.Before) :
    (calls.tried g id verdict i stages).Pairwise Call.Before := by
  induction stages generalizing i with
  | nil => exact .nil
  | cons s rest ih =>
    obtain ⟨hs, hrest⟩ := List.forall_mem_cons.1 h
    have hfirst : ((calls g id s).map (.under i)).Pairwise Call.Before :=
      List.pairwise_map.2 (hs.imp Call.before_under_iff.2)
    rw [calls.tried]
    split
    · refine List.pairwise_append.2 ⟨hfirst, ih hrest, fun c hc d hd => ?_⟩
      -- what is called later stands in a later part
      obtain ⟨c, -, rfl⟩ := List.mem_map.1 hc
      obtain ⟨k, -, -, -, d, -, rfl⟩ := mem_tried_iff.1 hd
      exact Call.before_under_of_lt (by omega) c d
    · rwa [List.append_nil]

theorem pairwise_calls (g : Graph) (id : String) (s : Stage) :
    (calls g id s).Pairwise Call.Before := by
  induction s using parts_induction with
  | parts s ih =>
    by_cases hs : ∃ f, s = .custom f
    · obtain ⟨f, rfl⟩ := hs
      exact List.pairwise_singleton _ _
    · rw [calls_eq_tried (not_exists.1 hs)]
      exact pairwise_tried ih

/-! ### Traces -/

/-- The verdict of a stage and the tags of the filters that it calls. -/
def log (g : Graph) (id : String) (s : Stage) : Bool × List ℕ :=
  (s.includes g id, (calls g id s).map Call.tag)

theorem map_tag_under (i : ℕ) (l : List Call) :
    (l.map (Call.under i)).map Call.tag = l.map Call.tag := by
  rw [List.map_map]
  rfl

theorem trace_all (i : ℕ) (stages : List Stage)
    (h : ∀ s ∈ stages, trace g id s = log g id s) :
    trace.all g id stages =
      (includes.all g id stages, (calls.tried g id true i stages).map Call.tag) := by
  induction stages generalizing i with
  | nil => rfl
  | cons s rest ih =>
    obtain ⟨hs, hrest⟩ := List.forall_mem_cons.1 h
    rw [trace.all, hs, log, ih (i + 1) hrest, includes.all, calls.tried, List.map_append,
      map_tag_under]
    cases includes g id s <;> simp

theorem trace_any (i : ℕ) (stages : List Stage)
    (h : ∀ s ∈ stages, trace g id s = log g id s) :
    trace.any g id stages =
      (includes.any g id stages, (calls.tried g id false i stages).map Call.tag) := by
  induction stages generalizing i with
  | nil => rfl
  | cons s rest ih =>
    obtain ⟨hs, hrest⟩ := List.forall_mem_cons.1 h
    rw [trace.any, hs, log, ih (i + 1) hrest, includes.any, calls.tried, List.map_append,
      map_tag_under]
    cases includes g id s <;> simp

theorem trace_eq_log (g : Graph) (id : String) (s : Stage) : trace g id s = log g id s := by
  induction s using parts_induction with
  | parts s ih =>
    cases s with
    | kinds | namePattern | members | count | custom => rfl
    | not stage =>
      rw [trace, ih stage List.mem_cons_self, log, log, includes, calls, map_tag_under]
    | allOf stages => rw [trace, trace_all 0 stages ih, log, includes, calls]
    | anyOf stages => rw [trace, trace_any 0 stages ih, log, includes, calls]
    | nested name stages => rw [trace, trace_all 0 stages ih, log, includes, calls]

end Stage

namespace Pipeline

theorem includes_toStage (p : Pipeline) (g : Graph) (id : String) :
    p.toStage.includes g id = p.includes g id := by
  rw [Bool.eq_iff_iff, includes_iff, toStage, Stage.includes, Stage.includes_all]

/-- One evaluation of a pipeline calls a custom filter in it exactly when it comes to the address of
the filter. The calls ascend by their addresses, so no filter is called at one address twice. -/
theorem asked_in_order_iff_reaches (p : Pipeline) (g : Graph) (id : String) :
    Stage.trace g id p.toStage = ((p.evaluate g id).included, p.asked g id) ∧
      ∃ calls : List Stage.Call, p.asked g id = calls.map (·.filter.tag) ∧
        calls.Pairwise (·.address < ·.address) ∧
        ∀ address filter, ⟨address, filter⟩ ∈ calls ↔
          Stage.Reaches g id p.toStage address (.custom filter) := by
  have hlog := Stage.trace_eq_log g id p.toStage
  have hverdict : p.toStage.includes g id = (p.evaluate g id).included := p.includes_toStage g id
  have hasked : p.asked g id = (Stage.calls g id p.toStage).map Stage.Call.tag :=
    congrArg Prod.snd hlog
  constructor
  · rw [hlog, Stage.log, hverdict, hasked]
  · exact ⟨Stage.calls g id p.toStage, hasked, Stage.pairwise_calls g id p.toStage,
      fun _ _ => Stage.mem_calls_iff⟩

/-- The disjunction stops after the filter 1 and the conjunction after the filter 3. -/
example :
    let asks (tag : ℕ) (verdict : Bool) : Stage := .custom ⟨tag, fun _ _ => verdict⟩
    let p : Pipeline := ⟨"probes", [.anyOf [asks 0 false, asks 1 true, asks 2 true],
      .not (.allOf [asks 3 false, asks 4 true]), .nested "inner" [asks 5 true, asks 6 false]]⟩
    p.asked ∅ "n" = [0, 1, 3, 5, 6] := by
  decide

end Pipeline

end RelGraph
