import RelGraph.Command.Options

/-! Invocations: what a command line asks for. There are four commands; four options apply to all
of them and may stand before or after the command. An option that was given in both places counts
where it stands after the command. -/

namespace RelGraph.Command

/-- What is to be done. -/
inductive Action
  /-- Validate the configuration and sum it up. -/
  | check (list : Bool)
  /-- List the documents that apply to a model. -/
  | select (model : String) (best json : Bool)
  /-- Run a pipeline over a graph. -/
  | filter (pipeline graph : String) (parallel explain json : Bool)
  /-- List what can be reached from roots under a matcher. -/
  | reach (roots : List String) (matcher graph : String) (edges json : Bool)
  deriving DecidableEq, Repr

/-- An action with the options that apply to every action. -/
structure Invocation where
  verbose : Bool
  quiet : Bool
  noColor : Bool
  config : Option String
  action : Action
  deriving DecidableEq, Repr

namespace Invocation

/-! ### Levels -/

def flag (long : String) : OptionSpec := ⟨long, none, .flag⟩

def helpOption : OptionSpec := ⟨"help", some 'h', .help⟩

/-- The options of every level. A path must not be empty. -/
def sharedOptions : List OptionSpec :=
  [⟨"verbose", some 'v', .flag⟩, ⟨"quiet", some 'q', .flag⟩, flag "no-color",
    ⟨"config", some 'c', .value false⟩, helpOption]

def sharedConflicts : List (String × String) := [("quiet", "verbose")]

def graphOption : OptionSpec := ⟨"graph", some 'g', .value false⟩

def matcherOption : OptionSpec := ⟨"matcher", some 'm', .value true⟩

def rootLevel : Level where
  options := sharedOptions ++ [⟨"version", some 'V', .version⟩]
  operands := .none
  subcommands := ["check", "select", "filter", "reach", "help"]
  conflicts := sharedConflicts
  required := []

def checkLevel : Level where
  options := sharedOptions ++ [flag "list"]
  operands := .none
  subcommands := []
  conflicts := sharedConflicts
  required := []

def selectLevel : Level where
  options := sharedOptions ++ [flag "best", flag "json"]
  operands := .one
  subcommands := []
  conflicts := sharedConflicts
  required := []

def filterLevel : Level where
  options := sharedOptions ++ [graphOption, flag "parallel", flag "explain", flag "json"]
  operands := .one
  subcommands := []
  conflicts := sharedConflicts ++ [("explain", "json")]
  required := ["graph"]

def reachLevel : Level where
  options := sharedOptions ++ [matcherOption, graphOption, flag "edges", flag "json"]
  operands := .many
  subcommands := []
  conflicts := sharedConflicts
  required := ["matcher", "graph"]

/-! ### Reading -/

/-- What the arguments after a command ask for. -/
def readAction (name : String) (args : List String) : Except Refusal (Reading × Action) := do
  match name with
  | "check" =>
    let r ← checkLevel.finish args
    return (r, .check (r.has "list"))
  | "select" =>
    let r ← selectLevel.finish args
    return (r, .select (r.operands.headD "") (r.has "best") (r.has "json"))
  | "filter" =>
    let r ← filterLevel.finish args
    return (r, .filter (r.operands.headD "") ((r.value? "graph").getD "") (r.has "parallel")
      (r.has "explain") (r.has "json"))
  | "reach" =>
    let r ← reachLevel.finish args
    return (r, .reach r.operands ((r.value? "matcher").getD "") ((r.value? "graph").getD "")
      (r.has "edges") (r.has "json"))
  | _ => throw .unknownSubcommand

/-- Asking for the help of a command, which has no commands of its own. -/
def helpTopic : List String → Refusal
  | [] => .help
  | [name] => if rootLevel.subcommands.contains name then .help else .unknownSubcommand
  | _ => .unknownSubcommand

/-- What a command line asks for. The part after the command is read and checked before the part
in front of it is checked. -/
def ofArgs (args : List String) : Except Refusal Invocation := do
  let (before, subcommand) ← rootLevel.read .start args
  match subcommand with
  | some (name, rest) =>
    if name == "help" then throw (helpTopic rest)
    let (after, action) ← readAction name rest
    let before ← before.settle
    rootLevel.check before
    return {
      verbose := before.has "verbose" || after.has "verbose"
      quiet := before.has "quiet" || after.has "quiet"
      noColor := before.has "no-color" || after.has "no-color"
      config := (after.value? "config").or (before.value? "config")
      action }
  | none =>
    let before ← before.settle
    throw (if before.given.isEmpty then .nothingGiven else .missingSubcommand)

end Invocation

end RelGraph.Command
