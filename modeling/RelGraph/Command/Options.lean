/-! Command lines with options. A level of a command line knows its options, how many operands it
takes, and the names that lead to a deeper level. Reading goes from left to right; an option whose
value stands by itself is settled when the next one is met or the line ends. -/

namespace RelGraph.Command

/-- Why a command line is not run. -/
inductive Refusal
  /-- Two options exclude each other, or one is given twice. -/
  | conflict
  | unknownArgument
  | unknownSubcommand
  | missingArgument
  | missingSubcommand
  /-- A value is missing or cannot be used. -/
  | invalidValue
  /-- A flag was given a value. -/
  | surplusValue
  /-- Nothing was given at all, so the help is shown. -/
  | nothingGiven
  | help
  | version
  deriving DecidableEq, Repr

/-- Asking for help or for the version is no failure. -/
def Refusal.exitCode : Refusal → Nat
  | help | version => 0
  | _ => 2

/-- What an option takes or does. -/
inductive OptionKind
  | flag
  | value (mayBeEmpty : Bool)
  | help
  | version
  deriving DecidableEq, Repr

/-- An option with its long name and, if it has one, its letter. -/
structure OptionSpec where
  long : String
  short : Option Char
  kind : OptionKind
  deriving DecidableEq, Repr

/-- How many operands a level takes. -/
inductive Operands
  | none | one | many
  deriving DecidableEq, Repr

def Operands.room : Operands → Nat → Bool
  | none, _ => false
  | one, taken => taken == 0
  | many, _ => true

/-- One level of a command line. -/
structure Level where
  options : List OptionSpec
  operands : Operands
  subcommands : List String
  /-- Long names that exclude each other. -/
  conflicts : List (String × String)
  /-- Long names that must be given. -/
  required : List String
  deriving DecidableEq, Repr

/-- What has been read of a level. -/
structure Reading where
  /-- Long names with the values they were given. -/
  given : List (String × String)
  operands : List String
  /-- An option with a value of its own that is not settled, and the value once it is there. -/
  pending : Option (OptionSpec × Option String)
  /-- Two dashes have been met, so everything else is an operand. -/
  escaped : Bool
  deriving DecidableEq, Repr

namespace Reading

def start : Reading := ⟨[], [], none, false⟩

def has (r : Reading) (long : String) : Bool := r.given.any (·.1 == long)

def value? (r : Reading) (long : String) : Option String := r.given.lookup long

/-- Takes an option with its value. It may be given once. -/
def take (r : Reading) (o : OptionSpec) (value : String) : Except Refusal Reading :=
  if r.has o.long then .error .conflict
  else if o.kind == .value false && value.isEmpty then .error .invalidValue
  else .ok { r with given := r.given ++ [(o.long, value)] }

/-- Takes the option that is pending. -/
def settle (r : Reading) : Except Refusal Reading :=
  match r.pending with
  | none => .ok r
  | some (_, none) => .error .invalidValue
  | some (o, some value) => { r with pending := none }.take o value

/-- The next argument is the value of an option. -/
def isWaiting (r : Reading) : Bool :=
  match r.pending with
  | some (_, none) => true
  | _ => false

/-- Meets an option that has no value attached. -/
def meet (r : Reading) (o : OptionSpec) : Except Refusal Reading := do
  let r ← r.settle
  match o.kind with
  | .flag => r.take o ""
  | .value _ => return { r with pending := some (o, none) }
  | .help => throw .help
  | .version => throw .version

/-- Meets an option with a value attached. -/
def meetWith (r : Reading) (o : OptionSpec) (value : String) : Except Refusal Reading :=
  match o.kind with
  | .value _ => do (← r.settle).take o value
  | _ => .error .surplusValue

/-- Meets an operand. -/
def meetOperand (r : Reading) (level : Level) (arg : String) : Except Refusal Reading :=
  if level.operands.room r.operands.length then do
    let r ← r.settle
    return { r with operands := r.operands ++ [arg] }
  else if level.subcommands.isEmpty || (r.escaped && level.subcommands.contains arg) then
    .error .unknownArgument
  else .error .unknownSubcommand

/-- Meets letters behind one dash. The rest after the letter of an option with a value is that
value; an equals sign may stand between them. -/
def meetLetters (level : Level) (r : Reading) : List Char → Except Refusal Reading
  | [] => .ok r
  | c :: rest =>
    match level.options.find? (·.short == some c) with
    | none => .error .unknownArgument
    | some o =>
      match o.kind, rest with
      | .value _, '=' :: value => r.meetWith o (String.ofList value)
      | .value _, v :: value => r.meetWith o (String.ofList (v :: value))
      | _, _ => do meetLetters level (← r.meet o) rest

/-- Meets a long option, with what follows its first equals sign as a value. -/
def meetLong (level : Level) (r : Reading) (cs : List Char) : Except Refusal Reading :=
  let name := String.ofList (cs.takeWhile (· != '='))
  match level.options.find? (·.long == name) with
  | none => .error .unknownArgument
  | some o =>
    match cs.dropWhile (· != '=') with
    | [] => r.meet o
    | _ :: value => r.meetWith o (String.ofList value)

/-- Meets an argument that does not lead to a deeper level. -/
def meetArgument (level : Level) (r : Reading) (arg : String) : Except Refusal Reading :=
  if r.escaped then r.meetOperand level arg
  else
    match arg.toList with
    | ['-', '-'] => .ok { r with escaped := true }
    | '-' :: '-' :: cs => meetLong level r cs
    | '-' :: c :: cs => meetLetters level r (c :: cs)
    | _ =>
      match r.pending with
      | some (o, none) => .ok { r with pending := some (o, some arg) }
      | _ => r.meetOperand level arg

end Reading

namespace Level

/-- Reads a level up to its end, or to a name that leads to a deeper level and what follows it. -/
def read (level : Level) (r : Reading) :
    List String → Except Refusal (Reading × Option (String × List String))
  | [] => .ok (r, none)
  | arg :: rest =>
    if !r.escaped && !r.isWaiting && level.subcommands.contains arg then
      .ok (r, some (arg, rest))
    else do level.read (← Reading.meetArgument level r arg) rest

/-- Checks what has been read of a level: first what excludes each other, then what is missing. -/
def check (level : Level) (r : Reading) : Except Refusal Unit :=
  if level.conflicts.any fun (a, b) => r.has a && r.has b then .error .conflict
  else if level.required.all r.has && (level.operands == .none || !r.operands.isEmpty) then .ok ()
  else .error .missingArgument

/-- Reads a level that has no deeper ones to its end and checks it. -/
def finish (level : Level) (args : List String) : Except Refusal Reading := do
  let (r, _) ← level.read .start args
  let r ← r.settle
  level.check r
  return r

end Level

end RelGraph.Command
