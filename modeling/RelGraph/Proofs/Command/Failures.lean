import RelGraph.Proofs.Command.Invocation
import RelGraph.Proofs.Command.Session

/-! Failures of an execution: why it fails, and what it shows then. Every way to fail is a step of
gathering, so nothing has been written when a step fails. What an invocation gathers does not depend
on whether it is quiet. -/

namespace RelGraph.Command

open Config (Problem Resolved)
open RelGraph.Outcome

/-! ### Why an execution fails -/

section

variable (s : Surroundings) (r : Resolved)

/-- The ways to fail once the configuration is resolved. -/
inductive FailsFrom : Action → Failure → Prop
  | unknownModel {model : String} {best json : Bool} (hmodel : r.models.get? model = none) :
    FailsFrom (.select model best json) (.unknownModel model)
  | unknownPipeline {pipeline graph : String} {parallel explain json : Bool}
    (hpipeline : r.pipeline? pipeline = none) :
    FailsFrom (.filter pipeline graph parallel explain json) (.unknownPipeline pipeline)
  | graphToFilter {p : Pipeline} {pipeline graph : String} {parallel explain json : Bool}
    {failure : Failure} (hpipeline : r.pipeline? pipeline = some p)
    (hgraph : loadGraph s graph r.catalog = .error failure) :
    FailsFrom (.filter pipeline graph parallel explain json) failure
  | unknownMatcher {roots : List String} {matcher graph : String} {edges json : Bool}
    {problem : Problem} (hmatcher : r.matcher matcher = .error problem) :
    FailsFrom (.reach roots matcher graph edges json) (.notConfigured problem)
  | graphToReach {m : Matcher} {roots : List String} {matcher graph : String} {edges json : Bool}
    {failure : Failure} (hmatcher : r.matcher matcher = .ok m)
    (hgraph : loadGraph s graph r.catalog = .error failure) :
    FailsFrom (.reach roots matcher graph edges json) failure

/-- The ways to fail. -/
inductive Fails (config : Option String) (action : Action) : Failure → Prop
  | notLoaded {failure : Failure} (hload : loadConfig s config = .error failure) :
    Fails config action failure
  | invalidConfig {c : Config} {problem : Problem} (hload : loadConfig s config = .ok c)
    (hresolve : c.resolve = .error problem) : Fails config action (.invalidConfig problem)
  | resolved {c : Config} {r : Resolved} {failure : Failure} (hload : loadConfig s config = .ok c)
    (hresolve : c.resolve = .ok r) (hfails : FailsFrom s r action failure) :
    Fails config action failure

end

section

variable {s : Surroundings} {r : Resolved} {failure : Failure}

theorem loadGraph_bind_eq_error {graph : String} {catalog : Catalog} {report : Graph → Console} :
    (loadGraph s graph catalog >>= fun g => pure (report g)) = .error failure ↔
      loadGraph s graph catalog = .error failure := by
  cases loadGraph s graph catalog <;> simp [bind, Except.bind, pure, Except.pure]

theorem gatherFrom_of_fails {action : Action} (h : FailsFrom s r action failure) :
    gatherFrom s r action = .error failure := by
  cases h with
  | unknownModel hmodel =>
    rw [gatherFrom, hmodel]
    rfl
  | unknownPipeline hpipeline =>
    rw [gatherFrom, hpipeline]
    rfl
  | graphToFilter hpipeline hgraph =>
    rw [gatherFrom, hpipeline]
    exact loadGraph_bind_eq_error.2 hgraph
  | unknownMatcher hmatcher =>
    rw [gatherFrom, hmatcher]
    rfl
  | graphToReach hmatcher hgraph =>
    rw [gatherFrom, hmatcher]
    exact loadGraph_bind_eq_error.2 hgraph

theorem failsFrom_of_gatherFrom {action : Action} (h : gatherFrom s r action = .error failure) :
    FailsFrom s r action failure := by
  cases action with
  | check list => cases h
  | select model best json =>
    rw [gatherFrom] at h
    cases hmodel : r.models.get? model with
    | none =>
      rw [hmodel] at h
      cases h
      exact .unknownModel hmodel
    | some m =>
      rw [hmodel] at h
      cases h
  | filter pipeline graph parallel explain json =>
    rw [gatherFrom] at h
    cases hpipeline : r.pipeline? pipeline with
    | none =>
      rw [hpipeline] at h
      cases h
      exact .unknownPipeline hpipeline
    | some p =>
      rw [hpipeline] at h
      exact .graphToFilter hpipeline (loadGraph_bind_eq_error.1 h)
  | reach roots matcher graph edges json =>
    rw [gatherFrom] at h
    cases hmatcher : r.matcher matcher with
    | error problem =>
      rw [hmatcher] at h
      cases h
      exact .unknownMatcher hmatcher
    | ok m =>
      rw [hmatcher] at h
      exact .graphToReach hmatcher (loadGraph_bind_eq_error.1 h)

/-- Gathering is refused just for these reasons. -/
theorem gather_eq_error {config : Option String} {action : Action} :
    gather s config action = .error failure ↔ Fails s config action failure := by
  rw [gather, bind_eq_error]
  constructor
  · rintro (hload | ⟨c, hload, h⟩)
    · exact .notLoaded hload
    · cases hresolve : c.resolve with
      | error problem =>
        rw [resolveConfig, hresolve] at h
        cases h
        exact .invalidConfig hload hresolve
      | ok r =>
        rw [resolveConfig_of_resolve hresolve] at h
        exact .resolved hload hresolve (failsFrom_of_gatherFrom h)
  · rintro (hload | ⟨hload, hresolve⟩ | ⟨hload, hresolve, hfails⟩)
    · exact .inl hload
    · refine .inr ⟨_, hload, ?_⟩
      rw [resolveConfig, hresolve]
      rfl
    · refine .inr ⟨_, hload, ?_⟩
      rw [resolveConfig_of_resolve hresolve]
      exact gatherFrom_of_fails hfails

end

/-! ### What an execution shows -/

variable {s : Surroundings} {i : Invocation}

theorem execute_of_fails {failure : Failure} (h : Fails s i.config i.action failure) :
    execute s i = ⟨1, ⟨[], failure.notes⟩⟩ := by
  rw [execute_eq, gather_eq_error.2 h]

theorem exitCode_ne_zero_iff :
    (execute s i).exitCode ≠ 0 ↔ ∃ failure, Fails s i.config i.action failure := by
  constructor
  · intro hexit
    cases hgather : gather s i.config i.action with
    | error failure => exact ⟨failure, gather_eq_error.1 hgather⟩
    | ok report =>
      rw [execute_eq, hgather] at hexit
      exact absurd rfl hexit
  · rintro ⟨failure, h⟩
    rw [execute_of_fails h]
    exact Nat.one_ne_zero

/-- To be quiet changes the notes only. -/
theorem execute_quiet (s : Surroundings) (i : Invocation) :
    (execute s { i with quiet := true }).exitCode = (execute s i).exitCode ∧
      (execute s { i with quiet := true }).console.out = (execute s i).console.out := by
  rw [execute_eq, execute_eq]
  cases gather s i.config i.action with
  | ok report => exact ⟨rfl, rfl⟩
  | error failure => exact ⟨rfl, rfl⟩

end RelGraph.Command
