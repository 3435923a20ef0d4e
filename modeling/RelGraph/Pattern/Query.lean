import RelGraph.Pattern.Written
import RelGraph.Unicode.Age
import RelGraph.Unicode.Property
import RelGraph.Unicode.ScriptExtension

/-! Properties that a pattern asks for by name. A single name is looked up among the yes-or-no
properties, then among the categories, then among the scripts; a name with a value is that of a
property with several values. -/

namespace RelGraph.Pattern

open Unicode (CodeSet)

/-- Names of properties are compared without case, blanks, dashes, underscores and characters that
are not basic, and without a leading "is"; only "isc" keeps it. -/
def normalizeName (name : String) : String :=
  let chars := name.toList
  let hasIs := (chars.take 2).map Char.toLower == ['i', 's']
  let kept := (if hasIs then chars.drop 2 else chars).filter fun c =>
    c != ' ' && c != '_' && c != '-' && c.toNat < 128
  let name := String.ofList (kept.map Char.toLower)
  if hasIs && name == "c" then "isc" else name

/-- Looks up a name in a table of codes and names, where a code is a name too. -/
def lookUpName (table : List (String × String)) (name : String) : Option String :=
  (table.find? fun entry => entry.1 == name || entry.2 == name).map Prod.fst

def categoryNamed? : String → Option CodeSet
  | "any" => some .full
  | "assigned" => some (Unicode.categorySet "cn").compl
  | "ascii" => some [⟨0, 127⟩]
  | name => (lookUpName Unicode.categoryNames name).map Unicode.categorySet

def scriptNamed? (name : String) : Option CodeSet :=
  (lookUpName Unicode.scriptNames name).map Unicode.scriptSet

/-- The names of categories that name a property with several values as well. They are taken for the
categories. -/
def sharedNames : List String := ["cf", "sc", "lc"]

def propertyNamed? (name : String) : Option CodeSet :=
  if sharedNames.contains name then none else (Unicode.Property.named? name).map (·.members)

/-- The code points whose value of a property is the given one. -/
def valued? (property value : String) : Option CodeSet :=
  match property with
  | "gc" | "generalcategory" => categoryNamed? value
  | "sc" | "script" => scriptNamed? value
  | "scx" | "scriptextensions" =>
    (lookUpName Unicode.scriptNames value).map Unicode.scriptExtensionSet
  | "age" => (Unicode.versionIndex? value).map Unicode.ageSet
  | "gcb" | "graphemeclusterbreak" =>
    (lookUpName Unicode.graphemeBreakNames value).map Unicode.graphemeBreakSet
  | "wb" | "wordbreak" => (lookUpName Unicode.wordBreakNames value).map Unicode.wordBreakSet
  | "sb" | "sentencebreak" =>
    (lookUpName Unicode.sentenceBreakNames value).map Unicode.sentenceBreakSet
  | _ => none

/-- The code points that are asked for, if the names are known. -/
def PropertyQuery.members? : PropertyQuery → Option CodeSet
  | named name =>
    let name := normalizeName name
    propertyNamed? name <|> categoryNamed? name <|> scriptNamed? name
  | valued name value => valued? (normalizeName name) (normalizeName value)

end RelGraph.Pattern
