import RelGraph.Pattern.Automaton
import RelGraph.Pattern.Meaning
import RelGraph.Pattern.Written.Reader

/-! Name patterns. A pattern keeps its text and the expression that it compiles to, and is looked
for anywhere in a name. -/

namespace RelGraph

/-- A pattern that compiles. -/
structure Pattern where
  text : String
  regex : Pattern.Regex

namespace Pattern

/-- The pattern of a text, or nothing when the text is not a pattern or its automata would take too
much memory. -/
def compile? (text : String) : Option Pattern := do
  let written ← Written.parse? text
  let (regex, _) ← regex? {} written
  if regex.fits then some ⟨text, regex⟩ else none

def compiles (text : String) : Bool := (compile? text).isSome

/-- Some part of the name is matched. -/
def matchesName (p : Pattern) (name : String) : Bool := p.regex.matchesIn name

end Pattern

end RelGraph
