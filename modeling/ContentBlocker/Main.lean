import ContentBlocker.CommandLine.Commands
import Std.Time.Format

/-!
# The program

The command line on real files: the commands run in `IO`, and the exit code is theirs.  A failure
is printed, and then the exit code is 1.
-/

set_option autoImplicit false
namespace ContentBlocker.CommandLine

/-- A failure in words. -/
def Failure.message : Failure → String
  | .file fault => fault.code
  | .malformedJson => "not a JSON text"
  | .notRuleArray path => "not a content-blocker rule array: " ++ path.text
  | .conversion error => error.message

/-- A path as the system has it. -/
def onDisk (path : FilePath) := do
  let directory ← IO.currentDir
  pure (directory / path.text)

instance : Host IO where
  workingDirectory := return FilePath.resolve [] (← IO.currentDir).toString
  isDirectory path := return (← (← onDisk path).metadata).type == .dir
  filesIn path := do
    let entries ← (← onDisk path).readDir
    let files ← entries.filterM fun entry => return (← entry.path.symlinkMetadata).type == .file
    return files.toList.map (·.fileName)
  readText path := do IO.FS.readFile (← onDisk path)
  makeDirectories path := do IO.FS.createDirAll (← onDisk path)
  writeText path text := do IO.FS.writeFile (← onDisk path) text
  print line := IO.println line
  printError line := IO.eprintln line
  now := do
    let time := Std.Time.DateTime.ofTimestamp (← Std.Time.Timestamp.now) .UTC
    return time.format "uuuu-MM-dd'T'HH:mm:ss.SSS'Z'"
  fail failure := throw (IO.userError failure.message)

end ContentBlocker.CommandLine

/-- Runs the command that the arguments name. -/
def main (arguments : List String) : IO UInt32 := do
  try
    let code ← (ContentBlocker.CommandLine.run arguments : IO Nat)
    return code.toUInt32
  catch error =>
    IO.eprintln error
    return 1
