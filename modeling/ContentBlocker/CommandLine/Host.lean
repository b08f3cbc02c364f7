import ContentBlocker.CommandLine.FileSystem
import ContentBlocker.Conversion.Options

/-!
# What the commands need from the outside

The commands read and write files, print lines, and ask for the time.  `Host` is what can be done
there, for any monad in which it can be done; `Session` is the monad in which it is done to a
`World`, a value that holds a file system and what has been printed.  A failure ends a command, and
what it had done until then stays done.
-/

set_option autoImplicit false
namespace ContentBlocker.CommandLine

/-- Why a command breaks off. -/
inductive Failure where
  | file (fault : FileFault)
  /-- A file that should hold JSON does not. -/
  | malformedJson
  /-- A file that should hold a content blocker holds something else. -/
  | notRuleArray (path : FilePath)
  | conversion (error : ConversionError)
  deriving DecidableEq

/-- What a monad has to offer for the commands. -/
class Host (m : Type → Type) where
  workingDirectory : m FilePath
  /-- Whether a directory stands at a path. -/
  isDirectory : FilePath → m Bool
  /-- The names of the files directly in a directory, in any order. -/
  filesIn : FilePath → m (List String)
  readText : FilePath → m String
  makeDirectories : FilePath → m Unit
  writeText : FilePath → String → m Unit
  print : String → m Unit
  printError : String → m Unit
  /-- The time, as it is written in a report. -/
  now : m String
  fail : {α : Type} → Failure → m α

/-! ## A world of files -/

/-- Everything that a command can see or change. -/
structure World where
  files : FileSystem
  workingDirectory : FilePath
  time : String
  /-- The lines that have been printed. -/
  output : List String
  /-- The lines that have been printed as errors. -/
  errors : List String
  deriving DecidableEq

/-- What can be done to a world.  A failure keeps the world as it is by then. -/
abbrev Session := ExceptT Failure (StateM World)

namespace Session

/-- Asks a question about the files. -/
def ask {α : Type} (question : FileSystem → Except FileFault α) : Session α := do
  match question (← get).files with
  | .ok answer => return answer
  | .error fault => throw (.file fault)

/-- Changes the files. -/
def change (f : FileSystem → Except FileFault FileSystem) : Session Unit := do
  let files ← ask f
  modify fun world => { world with files := files }

instance : Host Session where
  workingDirectory := return (← get).workingDirectory
  isDirectory path := return (← ask (·.find path)) == .directory
  filesIn path := ask fun fs => .ok (fs.filesIn path)
  readText path := ask (·.read path)
  makeDirectories path := change (·.makeDirectories path)
  writeText path text := change (·.write path text)
  print line := modify fun world => { world with output := world.output ++ [line] }
  printError line := modify fun world => { world with errors := world.errors ++ [line] }
  now := return (← get).time
  fail failure := throw failure

end Session
end ContentBlocker.CommandLine
