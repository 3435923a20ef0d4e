import RelGraph.Command.Invocation
import RelGraph.Proofs.Command.Options

/-! Invocations with one flag more. A command line that was accepted and is accepted again with
`--quiet` put in asks for the same thing, quietly. -/

namespace RelGraph.Command

open RelGraph.Outcome Reading

/-! ### Levels that are read to their end -/

namespace Level

theorem finish_eq_ok {level : Level} {args : List String} {u : Reading} :
    level.finish args = .ok u ↔
      ∃ sub, level.readAll .start args = .ok (u, sub) ∧ level.check u = .ok () := by
  rw [finish, bind_eq_ok]
  constructor
  · rintro ⟨⟨t, sub⟩, ht, h⟩
    obtain ⟨v, hv, h⟩ := bind_eq_ok.1 h
    obtain ⟨_, hcheck, h⟩ := bind_eq_ok.1 h
    obtain rfl := pure_eq_ok.1 h
    exact ⟨sub, readAll_eq_ok.2 ⟨t, ht, hv⟩, hcheck⟩
  · rintro ⟨sub, hu, hcheck⟩
    obtain ⟨t, ht, hsettle⟩ := readAll_eq_ok.1 hu
    exact ⟨(t, sub), ht, bind_eq_ok.2 ⟨u, hsettle, bind_eq_ok.2 ⟨(), hcheck, rfl⟩⟩⟩

/-- A level without deeper ones is read to its end. -/
theorem snd_readAll {level : Level} (hlevel : level.subcommands = []) {args : List String}
    {r u : Reading} {sub : Option (String × List String)}
    (h : level.readAll r args = .ok (u, sub)) : sub = none := by
  induction args generalizing r with
  | nil =>
    rw [readAll_nil] at h
    exact (settle_map_eq_ok.1 h).2
  | cons arg rest ih =>
    rw [readAll_cons, hlevel, List.contains_nil, Bool.and_false, if_neg Bool.false_ne_true] at h
    obtain ⟨v, -, hrest⟩ := bind_eq_ok.1 h
    exact ih hrest

theorem KnowsQuiet.finish_insert {level : Level} (hlevel : level.KnowsQuiet)
    (hsub : level.subcommands = []) {before after : List String} {u u' : Reading}
    (hbefore : "--" ∉ before) (h : level.finish (before ++ after) = .ok u)
    (hquiet : u.has "quiet" = false) (h' : level.finish (before ++ "--quiet" :: after) = .ok u') :
    Quieter u u' := by
  obtain ⟨sub, hu, -⟩ := finish_eq_ok.1 h
  obtain ⟨sub', hu', -⟩ := finish_eq_ok.1 h'
  rcases hlevel.readAll_insert rfl hbefore hu hquiet hu' with ⟨-, hq⟩ | ⟨name, mid, -, hsome, -⟩
  · exact hq
  · have hnone : sub = none := snd_readAll hsub hu
    rw [hnone] at hsome
    cases hsome

end Level

namespace Invocation

/-! ### Actions -/

/-- The level a command is read by, and what is to be done then. -/
def reader? : String → Option (Level × (Reading → Action))
  | "check" => some (checkLevel, fun r => .check (r.has "list"))
  | "select" =>
    some (selectLevel, fun r => .select (r.operands.headD "") (r.has "best") (r.has "json"))
  | "filter" =>
    some (filterLevel, fun r => .filter (r.operands.headD "") ((r.value? "graph").getD "")
      (r.has "parallel") (r.has "explain") (r.has "json"))
  | "reach" =>
    some (reachLevel, fun r => .reach r.operands ((r.value? "matcher").getD "")
      ((r.value? "graph").getD "") (r.has "edges") (r.has "json"))
  | _ => none

theorem readAction_eq_ok {name : String} {args : List String} {u : Reading} {action : Action} :
    readAction name args = .ok (u, action) ↔
      ∃ level act, reader? name = some (level, act) ∧ level.finish args = .ok u ∧ action = act u := by
  have hread : ∀ (l : Level) (a : Reading → Action),
      (l.finish args >>= fun r => pure (r, a r)) = .ok (u, action) ↔
        ∃ level act, some (l, a) = some (level, act) ∧ level.finish args = .ok u ∧
          action = act u := by
    intro l a
    rw [bind_eq_ok]
    constructor
    · rintro ⟨r, hr, heq⟩
      obtain ⟨rfl, rfl⟩ := Prod.mk.inj (pure_eq_ok.1 heq)
      exact ⟨l, a, rfl, hr, rfl⟩
    · rintro ⟨level, act, heq, hu, rfl⟩
      obtain ⟨rfl, rfl⟩ := Prod.mk.inj (Option.some.inj heq)
      exact ⟨u, hu, rfl⟩
  unfold readAction
  split
  · exact hread _ _
  · exact hread _ _
  · exact hread _ _
  · exact hread _ _
  · have hnone : reader? name = none := by
      unfold reader?
      split <;> simp_all
    rw [hnone]
    constructor
    · rintro ⟨⟩
    · rintro ⟨_, _, ⟨⟩, -⟩

/-- What the reader of every command has in common. -/
structure ReadsQuiet (level : Level) (act : Reading → Action) : Prop where
  knows : level.KnowsQuiet
  subcommands : level.subcommands = []
  act_eq : ∀ r r', Quieter r r' → act r' = act r

theorem readsQuiet_of_reader? {name : String} {level : Level} {act : Reading → Action}
    (h : reader? name = some (level, act)) : ReadsQuiet level act := by
  unfold reader? at h
  split at h
  all_goals cases h
  · refine ⟨⟨rfl, rfl⟩, rfl, fun r r' hr => ?_⟩
    rw [hr.has_eq (by decide)]
  · refine ⟨⟨rfl, rfl⟩, rfl, fun r r' hr => ?_⟩
    rw [hr.operands_eq, hr.has_eq (by decide), hr.has_eq (by decide)]
  · refine ⟨⟨rfl, rfl⟩, rfl, fun r r' hr => ?_⟩
    rw [hr.operands_eq, hr.value?_eq _ (by decide), hr.has_eq (by decide), hr.has_eq (by decide),
      hr.has_eq (by decide)]
  · refine ⟨⟨rfl, rfl⟩, rfl, fun r r' hr => ?_⟩
    rw [hr.operands_eq, hr.value?_eq _ (by decide), hr.value?_eq _ (by decide),
      hr.has_eq (by decide), hr.has_eq (by decide)]

theorem readAction_insert {name : String} {before after : List String} {u u' : Reading}
    {action action' : Action} (hbefore : "--" ∉ before)
    (h : readAction name (before ++ after) = .ok (u, action)) (hquiet : u.has "quiet" = false)
    (h' : readAction name (before ++ "--quiet" :: after) = .ok (u', action')) :
    Quieter u u' ∧ action' = action := by
  obtain ⟨level, act, hreader, hu, rfl⟩ := readAction_eq_ok.1 h
  obtain ⟨level', act', hreader', hu', rfl⟩ := readAction_eq_ok.1 h'
  obtain ⟨rfl, rfl⟩ := Prod.mk.inj (Option.some.inj (hreader.symm.trans hreader'))
  have hreads : ReadsQuiet level act := readsQuiet_of_reader? hreader
  have hq : Quieter u u' := hreads.knows.finish_insert hreads.subcommands hbefore hu hquiet hu'
  exact ⟨hq, hreads.act_eq u u' hq⟩

/-! ### Command lines -/

/-- What is asked for where the options in front of the command and behind it are these. -/
def merge (before after : Reading) (action : Action) : Invocation where
  verbose := before.has "verbose" || after.has "verbose"
  quiet := before.has "quiet" || after.has "quiet"
  noColor := before.has "no-color" || after.has "no-color"
  config := (after.value? "config").or (before.value? "config")
  action := action

theorem merge_quieter_left {before before' : Reading} (h : Quieter before before')
    (after : Reading) (action : Action) :
    merge before' after action = { merge before after action with quiet := true } := by
  simp only [merge, h.has_quiet, Bool.true_or, h.has_eq (show "verbose" ≠ "quiet" by decide),
    h.has_eq (show "no-color" ≠ "quiet" by decide), h.value?_eq "config" (by decide)]

theorem merge_quieter_right {after after' : Reading} (h : Quieter after after')
    (before : Reading) (action : Action) :
    merge before after' action = { merge before after action with quiet := true } := by
  simp only [merge, h.has_quiet, Bool.or_true, h.has_eq (show "verbose" ≠ "quiet" by decide),
    h.has_eq (show "no-color" ≠ "quiet" by decide), h.value?_eq "config" (by decide)]

theorem ofArgs_eq_ok {args : List String} {i : Invocation} :
    ofArgs args = .ok i ↔ ∃ before name rest after action,
      rootLevel.readAll .start args = .ok (before, some (name, rest)) ∧ name ≠ "help" ∧
        readAction name rest = .ok (after, action) ∧ rootLevel.check before = .ok () ∧
          i = merge before after action := by
  rw [ofArgs, bind_eq_ok]
  constructor
  · rintro ⟨⟨t, sub⟩, ht, h⟩
    match sub with
    | none =>
      obtain ⟨_, -, h⟩ := bind_eq_ok.1 h
      cases h
    | some (name, rest) =>
      simp only at h
      split at h
      · cases h
      · next hname =>
        obtain ⟨⟨after, action⟩, haction, h⟩ := bind_eq_ok.1 h
        obtain ⟨before, hbefore, h⟩ := bind_eq_ok.1 h
        obtain ⟨_, hcheck, h⟩ := bind_eq_ok.1 h
        refine ⟨before, name, rest, after, action, Level.readAll_eq_ok.2 ⟨t, ht, hbefore⟩,
          fun hhelp => hname (beq_iff_eq.2 hhelp), haction, hcheck, ?_⟩
        exact (pure_eq_ok.1 h).symm
  · rintro ⟨before, name, rest, after, action, hread, hname, haction, hcheck, rfl⟩
    obtain ⟨t, ht, hbefore⟩ := Level.readAll_eq_ok.1 hread
    refine ⟨(t, some (name, rest)), ht, ?_⟩
    simp only
    rw [if_neg (by simpa using hname)]
    exact bind_eq_ok.2 ⟨(after, action), haction, bind_eq_ok.2 ⟨before, hbefore,
      bind_eq_ok.2 ⟨(), hcheck, rfl⟩⟩⟩

theorem rootLevel_knowsQuiet : rootLevel.KnowsQuiet := ⟨rfl, rfl⟩

/-- Where the flag is put in and the command line is still accepted, it asks for the same thing,
quietly. -/
theorem ofArgs_insert {before after : List String} {i j : Invocation} (hbefore : "--" ∉ before)
    (h : ofArgs (before ++ after) = .ok i) (hquiet : i.quiet = false)
    (h' : ofArgs (before ++ "--quiet" :: after) = .ok j) : j = { i with quiet := true } := by
  obtain ⟨u, name, rest, v, action, hu, -, hv, -, rfl⟩ := ofArgs_eq_ok.1 h
  obtain ⟨u', name', rest', v', action', hu', -, hv', -, rfl⟩ := ofArgs_eq_ok.1 h'
  have hquiet : u.has "quiet" = false ∧ v.has "quiet" = false := Bool.or_eq_false_iff.1 hquiet
  -- the flag stands in front of the command, or behind it
  rcases rootLevel_knowsQuiet.readAll_insert rfl hbefore hu hquiet.1 hu' with
    ⟨hsame, hq⟩ | ⟨command, mid, hmid, hsub, hsub', rfl⟩
  · obtain ⟨rfl, rfl⟩ := Prod.mk.inj (Option.some.inj hsame)
    obtain ⟨rfl, rfl⟩ := Prod.mk.inj (Except.ok.inj (hv'.symm.trans hv))
    exact merge_quieter_left hq v' action'
  · obtain ⟨rfl, rfl⟩ := Prod.mk.inj (Option.some.inj hsub)
    obtain ⟨rfl, rfl⟩ := Prod.mk.inj (Option.some.inj hsub')
    obtain ⟨hq, rfl⟩ := readAction_insert hmid hv hquiet.2 hv'
    exact merge_quieter_right hq u' action'

theorem check_rootLevel_eq_ok {r : Reading} :
    rootLevel.check r = .ok () ↔ (r.has "quiet" && r.has "verbose") = false := by
  have hconflicts : rootLevel.conflicts = [("quiet", "verbose")] := rfl
  have hrequired : (rootLevel.required.all r.has &&
      (rootLevel.operands == .none || !r.operands.isEmpty)) = true := rfl
  rw [Level.check, hconflicts, hrequired, if_pos rfl, List.any_cons, List.any_nil, Bool.or_false]
  show (if (r.has "quiet" && r.has "verbose") = true then _ else _) = _ ↔ _
  cases r.has "quiet" && r.has "verbose" <;> simp

/-- The flag can be put in front of every command line that is neither verbose nor quiet. -/
theorem exists_ofArgs_cons {args : List String} {i : Invocation} (h : ofArgs args = .ok i)
    (hverbose : i.verbose = false) (hquiet : i.quiet = false) :
    ∃ j, ofArgs ("--quiet" :: args) = .ok j := by
  obtain ⟨u, name, rest, v, action, hu, hname, hv, -, rfl⟩ := ofArgs_eq_ok.1 h
  have hquiet : u.has "quiet" = false ∧ v.has "quiet" = false := Bool.or_eq_false_iff.1 hquiet
  have hverbose : u.has "verbose" = false ∧ v.has "verbose" = false :=
    Bool.or_eq_false_iff.1 hverbose
  have hmeet : meetArgument rootLevel .start "--quiet" =
      .ok { Reading.start with given := [("quiet", "")] } := rfl
  obtain ⟨u', hu', hq⟩ := rootLevel_knowsQuiet.readAll_quiet rfl hu hquiet.1 hmeet
  have hread : rootLevel.readAll .start ("--quiet" :: args) = .ok (u', some (name, rest)) := by
    rw [Level.readAll_cons, rootLevel_knowsQuiet.subcommand, Bool.and_false,
      if_neg Bool.false_ne_true, hmeet]
    exact hu'
  have hcheck : rootLevel.check u' = .ok () := by
    have hverbose' : u'.has "verbose" = false := (hq.has_eq (by decide)).trans hverbose.1
    rw [check_rootLevel_eq_ok, hverbose', Bool.and_false]
  exact ⟨_, ofArgs_eq_ok.2 ⟨u', name, rest, v, action, hread, hname, hv, hcheck, rfl⟩⟩

end Invocation

end RelGraph.Command
