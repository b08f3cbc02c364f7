import ContentBlocker.CommandLine.Host
import ContentBlocker.Text.CodeUnits
import ContentBlocker.Text.Lines

/-!
# Files with filter lists

The input of a conversion is a file, or a directory whose files with names ending in `.txt` are
taken in the order of their names.  The lines of several files are the lines of one after the other.
-/

set_option autoImplicit false
namespace ContentBlocker.CommandLine

/-- What the names of filter lists in a directory end in. -/
def filterListExtension : List Char :=
  ".txt".toList

/-- The names that filter lists have, in order. -/
def filterListNames (names : List String) : List String :=
  Text.sorted (names.filter fun name => filterListExtension.isSuffixOf name.toList)

/-- The files of an input and their lines. -/
structure LoadedLists where
  files : List FilePath
  lines : List String
  deriving DecidableEq

/-- The files of an input. -/
def inputFiles {m : Type → Type} [Monad m] [Host m] (input : FilePath) : m (List FilePath) := do
  if ← Host.isDirectory input then
    return (filterListNames (← Host.filesIn input)).map fun name => input ++ [name]
  else
    return [input]

/-- Loads the files of an input. -/
def loadLists {m : Type → Type} [Monad m] [Host m] (input : FilePath) : m LoadedLists := do
  let files ← inputFiles input
  let texts ← files.mapM Host.readText
  return ⟨files, texts.flatMap Text.lines⟩

end ContentBlocker.CommandLine
