import RelGraph.Command.Execution

/-! What an execution comes to. A session writes as it goes and may fail on the way, but no command
writes before everything that can fail is done. So an execution is the same as gathering a report,
which fails or does not, and writing it as a whole: its results, and its notes unless the invocation
is quiet. -/

namespace RelGraph.Command

open Config (Resolved)

/-! ### Runs -/

section Runs

variable {α β : Type} {c : Console} {quiet : Bool}

@[simp] theorem run_lift (x : Except Failure α) : (liftM x : Session α).run c = (x, c) := rfl

theorem run_bind (x : Session α) (f : α → Session β) :
    (x >>= f).run c = match x.run c with
      | (.ok a, c') => (f a).run c'
      | (.error failure, c') => (.error failure, c') := by
  simp only [ExceptT.run, bind, ExceptT.bind, ExceptT.mk, StateT.bind, ExceptT.bindCont]
  cases x c with
  | mk result next => cases result <;> rfl

@[simp] theorem run_sayAll (lines : List String) :
    (sayAll lines).run c = (.ok (), ⟨c.out ++ lines, c.notes⟩) := rfl

@[simp] theorem run_sayJson (j : Json) :
    (sayJson j).run c = (.ok (), ⟨c.out ++ [j.pretty], c.notes⟩) := rfl

@[simp] theorem run_note (notes : List Note) :
    (note quiet notes).run c = (.ok (), ⟨c.out, c.notes ++ if quiet then [] else notes⟩) := by
  cases quiet with
  | false => rfl
  | true => exact congrArg (Prod.mk _) (by simp)

end Runs

/-! ### Reports -/

/-- Writes a report. A quiet console keeps the results only. -/
def Console.write (quiet : Bool) (c report : Console) : Console :=
  ⟨c.out ++ report.out, c.notes ++ if quiet then [] else report.notes⟩

def checkReport (list : Bool) (r : Resolved) : Console where
  out := summary r ++ if list then listing r else []
  notes := ⟨.success, "Configuration is valid"⟩ :: emptySetNotes r

def selectReport (model : String) (best json : Bool) (r : Resolved) (m : Model) : Console where
  out :=
    let documents := selected r m best
    if json then [(Json.arr (documents.map fun d => (Record.document d.describe).toJson)).pretty]
    else documents.map Document.name
  notes :=
    if (selected r m best).isEmpty then
      [⟨.warning, "no analysis document applies to '" ++ model ++ "'"⟩]
    else []

/-- How many nodes pass. -/
def passNote (p : Pipeline) (g : Graph) (ids : List String) : Note :=
  ⟨.info, toString ids.length ++ " of " ++ toString g.ids.length ++ " nodes pass '" ++ p.name ++
    "'"⟩

def filterReport (parallel explain json : Bool) (p : Pipeline) (g : Graph) : Console :=
  if explain then ⟨g.ids.map (explanation p g), []⟩
  else
    let ids := kept p g parallel
    ⟨if json then [(Json.strings ids).pretty] else ids, [passNote p g ids]⟩

def reachReport (roots : List String) (edges json : Bool) (m : Matcher) (g : Graph) : Console where
  out :=
    let reached := g.reachable m.policy roots
    if edges then
      let found := g.subgraphEdges m.policy reached
      if json then [(Json.arr (found.map fun e => Snapshot.recordToJson e.record)).pretty]
      else found.map edgeLine
    else if json then [(Json.strings reached).pretty]
    else reached
  notes := missingRootNotes g roots

/-! ### Gathering -/

/-- All that can fail once the configuration is resolved, and the report when nothing does. -/
def gatherFrom (s : Surroundings) (r : Resolved) : Action → Except Failure Console
  | .check list => return checkReport list r
  | .select model best json =>
    match r.models.get? model with
    | none => throw (.unknownModel model)
    | some m => return selectReport model best json r m
  | .filter pipeline graph parallel explain json =>
    match r.pipeline? pipeline with
    | none => throw (.unknownPipeline pipeline)
    | some p => do
      let g ← loadGraph s graph r.catalog
      return filterReport (parallel || r.settings.parallel) explain json p g
  | .reach roots matcher graph edges json => do
    let m ← (r.matcher matcher).mapError Failure.notConfigured
    let g ← loadGraph s graph r.catalog
    return reachReport roots edges json m g

theorem resolveConfig_of_resolve {c : Config} {r : Resolved} (h : c.resolve = .ok r) :
    resolveConfig c = .ok r := by
  rw [resolveConfig, h]
  rfl

/-- All that can fail, and the report when nothing does. -/
def gather (s : Surroundings) (config : Option String) (action : Action) :
    Except Failure Console := do
  let c ← loadConfig s config
  let r ← resolveConfig c
  gatherFrom s r action

/-- What a command does with its configuration. -/
def perform (s : Surroundings) (quiet : Bool) (c : Config) : Action → Session Unit
  | .check list => check quiet list c
  | .select model best json => select quiet model best json c
  | .filter pipeline graph parallel explain json =>
    filter s quiet pipeline graph parallel explain json c
  | .reach roots matcher graph edges json => reach s quiet roots matcher graph edges json c

/-- The session fails as the gathering does, with nothing written, or writes what is gathered. -/
def Writes (x : Session Unit) (quiet : Bool) (gathered : Except Failure Console) : Prop :=
  ∀ c : Console, x.run c = match gathered with
    | .ok report => (.ok (), c.write quiet report)
    | .error failure => (.error failure, c)

namespace Writes

variable {α : Type} {quiet : Bool}

theorem lift_bind {x : Except Failure α} {f : α → Session Unit} {g : α → Except Failure Console}
    (h : ∀ a, Writes (f a) quiet (g a)) : Writes (liftM x >>= f) quiet (x >>= g) := by
  intro c
  rw [run_bind, run_lift]
  cases x with
  | ok a => exact h a c
  | error failure => rfl

theorem throw (failure : Failure) :
    Writes (throw failure) quiet (MonadExcept.throw failure) := fun _ => rfl

theorem report {x : Session Unit} {report : Console}
    (h : ∀ c : Console, x.run c = (.ok (), c.write quiet report)) :
    Writes x quiet (pure report) := h

/-- Every command writes what is gathered from its configuration. -/
theorem perform (s : Surroundings) (quiet : Bool) (action : Action) (c : Config) :
    Writes (perform s quiet c action) quiet (resolveConfig c >>= (gatherFrom s · action)) := by
  cases action with
  | check list =>
    refine lift_bind fun r => report fun console => ?_
    cases quiet <;> cases list <;> simp [run_bind, Console.write, checkReport]
  | select model best json =>
    refine lift_bind fun r => ?_
    rw [gatherFrom]
    cases r.models.get? model with
    | none => exact throw (.unknownModel model)
    | some m =>
      refine report fun console => ?_
      by_cases hnone : (selected r m best).isEmpty = true <;> cases json <;>
        simp [run_bind, Console.write, selectReport, hnone]
  | filter pipeline graph parallel explain json =>
    refine lift_bind fun r => ?_
    rw [gatherFrom]
    cases r.pipeline? pipeline with
    | none => exact throw (.unknownPipeline pipeline)
    | some p =>
      refine lift_bind fun g => report fun console => ?_
      cases explain <;> cases json <;> simp [run_bind, Console.write, filterReport, passNote]
  | reach roots matcher graph edges json =>
    refine lift_bind fun r => lift_bind fun m => lift_bind fun g => report fun console => ?_
    cases edges <;> cases json <;> simp [run_bind, Console.write, reachReport]

theorem session (s : Surroundings) (i : Invocation) :
    Writes (session s i) i.quiet (gather s i.config i.action) :=
  lift_bind fun c => perform s i.quiet i.action c

end Writes

/-- An execution that fails shows the failure and nothing else; one that does not shows what it
gathered, without the notes if it is quiet. -/
theorem execute_eq (s : Surroundings) (i : Invocation) :
    execute s i = match gather s i.config i.action with
      | .ok report => ⟨0, ⟨report.out, if i.quiet then [] else report.notes⟩⟩
      | .error failure => ⟨1, ⟨[], failure.notes⟩⟩ := by
  have hrun := Writes.session s i .empty
  rw [execute, hrun]
  cases gather s i.config i.action <;> rfl

end RelGraph.Command
