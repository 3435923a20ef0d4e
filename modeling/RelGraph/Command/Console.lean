/-! The console of a command: results on the standard output, notes on the standard error. Notes
are kept apart from their looks, so that they can be shown with or without colors. -/

namespace RelGraph.Command

/-- What a note tells. -/
inductive NoteKind
  | success | info | warning | error | hint
  deriving DecidableEq, Repr

/-- A status message. -/
structure Note where
  kind : NoteKind
  text : String
  deriving DecidableEq, Repr

/-- The codes that switch colors and weights of a terminal. -/
def paint (codes : List Nat) (colored : Bool) (text : String) : String :=
  if colored then
    String.join (codes.map fun code => "\x1b[" ++ toString code ++ "m") ++ text ++ "\x1b[0m"
  else text

/-- The line of a note. A mark tells its kind; warnings and errors are painted as a whole. -/
def Note.line (colored : Bool) (n : Note) : String :=
  match n.kind with
  | .success => paint [32, 1] colored "✓" ++ " " ++ n.text
  | .info => paint [34, 1] colored "ℹ" ++ " " ++ n.text
  | .warning => paint [33, 1] colored "⚠" ++ " " ++ paint [33] colored n.text
  | .error => paint [31, 1] colored "✗" ++ " " ++ paint [31] colored n.text
  | .hint => "  " ++ paint [36] colored "hint:" ++ " " ++ n.text

/-- What has been written so far. -/
structure Console where
  out : List String
  notes : List Note
  deriving DecidableEq, Repr

namespace Console

def empty : Console := ⟨[], []⟩

/-- Lines as one text, each with its end. -/
def unlines (lines : List String) : String := String.join (lines.map (· ++ "\n"))

def stdout (c : Console) : String := unlines c.out

def stderr (colored : Bool) (c : Console) : String := unlines (c.notes.map (·.line colored))

end Console

/-! ### Surroundings -/

/-- Colors are used unless a variable forbids them, if a variable asks for them or the terminal
shows them. What the variables are set to does not matter. -/
def useColors (environment : List (String × String)) (terminal : Bool) : Bool :=
  let isSet := fun name => environment.any fun v => v.1 == name
  !isSet "NO_COLOR" && (isSet "FORCE_COLOR" || terminal)

/-- The parts of the program that write logs. -/
def logTargets : List String := ["depview_graph", "depview_config", "depview_cli"]

/-- The directive that logs a level for every part of the program. -/
def logDirective (level : String) : String :=
  ",".intercalate (logTargets.map fun target => target ++ "=" ++ level)

end RelGraph.Command
