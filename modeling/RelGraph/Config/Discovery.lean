import RelGraph.Config.Layers
import RelGraph.Files

/-! Discovery: where a configuration is looked for. It stands in a file of a fixed name in a root
directory, or in a file that is named; the variables of the environment are laid over it. -/

namespace RelGraph.Config

/-- The stem of the variables that are laid over a file. -/
def defaultStem : String := "DEPVIEW_"

/-- Where to look, and with which variables. -/
structure Discovery where
  root : String
  stem : String
  files : Files
  environment : List (String × String)

namespace Discovery

/-- The file in the root directory. -/
def candidate (d : Discovery) : String := joinPath d.root Problem.fileName

/-- The file in the root directory, if it is there. -/
def find? (d : Discovery) : Option String :=
  if (d.files d.candidate).isFile then some d.candidate else none

/-- Loads the file of a path. -/
def loadFrom (d : Discovery) (path : String) : Except Problem Config :=
  match d.files path with
  | .text content => ofLayers d.stem d.environment content
  | .unreadable => .error .unreadable
  | .directory | .nothing => .error (.notFound path)

/-- Loads the file in the root directory. -/
def load (d : Discovery) : Except Problem Config :=
  match d.find? with
  | some path => d.loadFrom path
  | none => .error (.notFound d.root)

end Discovery

end RelGraph.Config
