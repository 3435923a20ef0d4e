/-! Files as a program finds them. `Files` answers for every path what it leads to; a directory tree
in memory is one way to give such answers. -/

namespace RelGraph

/-- What a path leads to. -/
inductive Found
  | text (content : String)
  /-- A file that holds no text. -/
  | unreadable
  | directory
  | nothing
  deriving DecidableEq, Repr

def Found.isFile : Found → Bool
  | text _ | unreadable => true
  | directory | nothing => false

/-- What every path leads to. -/
abbrev Files := String → Found

/-- The path of a name within a directory. -/
def joinPath (directory name : String) : String :=
  if directory.isEmpty || directory.endsWith "/" then directory ++ name
  else directory ++ "/" ++ name

/-- A directory tree: the paths of its files with their texts, and those of empty directories. -/
structure Tree where
  /-- The name by which the top is known from outside. -/
  top : String
  files : List (List String × String)
  directories : List (List String)
  deriving DecidableEq, Repr

namespace Tree

/-- A tree from the paths of its files and, without a text, of its directories. -/
def ofList (top : String) (l : List (String × Option String)) : Tree where
  top := top
  files := l.filterMap fun (path, text) => text.map fun t => (path.splitOn "/", t)
  directories := l.filterMap fun (path, text) =>
    if text.isNone then some (path.splitOn "/") else none

def hasDirectory (t : Tree) (place : List String) : Bool :=
  place.isEmpty || t.directories.any place.isPrefixOf ||
    t.files.any fun f => place.isPrefixOf f.1 && place != f.1

/-- What stands at a place. -/
def look (t : Tree) (place : List String) : Found :=
  match t.files.find? (·.1 == place) with
  | some (_, text) => .text text
  | none => if t.hasDirectory place then .directory else .nothing

/-- Goes on from a place by the parts of a path. Only directories can be gone through. -/
def walk (t : Tree) : List String → List String → Found
  | place, [] => t.look place
  | place, part :: rest =>
    if t.look place != .directory then .nothing
    else if part.isEmpty || part == "." then walk t place rest
    else if part == ".." then if place.isEmpty then .nothing else walk t place.dropLast rest
    else walk t (place ++ [part]) rest

/-- What a path leads to, from the top or by the name of the top. -/
def find (t : Tree) : Files := fun path =>
  match path.splitOn "/" with
  | [""] => .nothing
  | "" :: _ => .nothing
  | first :: rest => if first == t.top then t.walk [] rest else t.walk [] (first :: rest)
  | [] => .nothing

end Tree

end RelGraph
