/-!
# Paths of files

A path is the list of names from the root down.  `FilePath.resolve` reads a path as it is written,
from a directory: names are separated by slashes, a slash at the start means the root, an empty name
and a single dot mean nothing, and two dots mean one level up.
-/

set_option autoImplicit false
namespace ContentBlocker.CommandLine

/-- The names from the root down to a file or directory. -/
abbrev FilePath := List String

namespace FilePath

/-- The path with one more step, as it is written. -/
def step (path : FilePath) (name : String) : FilePath :=
  if name = "" ∨ name = "." then path
  else if name = ".." then path.dropLast
  else path ++ [name]

/-- Reads a path from a directory. -/
def resolve (directory : FilePath) (written : String) : FilePath :=
  let names := (written.toList.splitOn '/').map String.ofList
  names.foldl step (if written.toList.head? = some '/' then [] else directory)

/-- The path as it is written. -/
def text (path : FilePath) : String :=
  if path.isEmpty then "/" else String.join (path.map ("/" ++ ·))

/-- The directory that a file is in. -/
def parent (path : FilePath) : FilePath :=
  path.dropLast

example : resolve ["a", "b"] ".././c//d/" = ["a", "c", "d"] := by decide
example : resolve ["a", "b"] "" = ["a", "b"] := by decide

end FilePath
end ContentBlocker.CommandLine
