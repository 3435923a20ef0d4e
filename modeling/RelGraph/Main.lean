import RelGraph.Command.Execution
import RelGraph.Command.Usage

/-! The program. It gathers what an execution finds around it, and shows what is left of it. -/

namespace RelGraph.Main

open Command

/-- The variables of the environment. -/
def environment : IO (List (String × String)) := do
  match ← (IO.FS.readFile "/proc/self/environ").toBaseIO with
  | .ok text =>
    return (text.splitOn "\x00").filterMap fun entry =>
      match entry.splitOn "=" with
      | name :: value@(_ :: _) => some (name, "=".intercalate value)
      | _ => none
  | .error _ => return []

/-- What a path leads to. A directory is as good as nothing here. -/
def found (path : String) : IO Found := do
  match ← (IO.FS.readBinFile path).toBaseIO with
  | .ok bytes =>
    match String.fromUTF8? bytes with
    | some text => return .text text
    | none => return .unreadable
  | .error (.permissionDenied ..) => return .unreadable
  | .error _ => return .nothing

/-- The surroundings of an invocation; only the files it can ask for are looked at. -/
def surroundings (i : Invocation) : IO Surroundings := do
  let home := (← IO.currentDir).toString
  let entries ← (i.paths home).mapM fun path => return (path, ← found path)
  return ⟨home, fun path => (entries.lookup path).getD .nothing, ← environment⟩

def write (stdout stderr : String) : IO Unit := do
  (← IO.getStdout).putStr stdout
  (← IO.getStderr).putStr stderr

/-- Executes a command line, or tells why it is not executed. -/
def run (args : List String) : IO UInt32 := do
  match Invocation.ofArgs args with
  | .error refusal =>
    let (out, err) := refusal.lines
    write (Console.unlines out) (Console.unlines err)
    return refusal.exitCode.toUInt32
  | .ok invocation =>
    let around ← surroundings invocation
    let outcome := execute around invocation
    let terminal ← (← IO.getStderr).isTty
    let colored := !invocation.noColor && useColors around.environment terminal
    write outcome.console.stdout (outcome.console.stderr colored)
    return outcome.exitCode.toUInt32

end RelGraph.Main

def main (args : List String) : IO UInt32 := RelGraph.Main.run args
