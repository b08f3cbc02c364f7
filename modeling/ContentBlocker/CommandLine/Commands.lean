import ContentBlocker.Allowlist.Edit
import ContentBlocker.CommandLine.FilterFiles
import ContentBlocker.CommandLine.Flags
import ContentBlocker.Json.Reader

/-!
# The commands

`convert` turns filter lists into a content blocker, `allowlist` edits a content blocker for a site,
and anything else prints the help.  `run` gives the exit code: 0 if the command has done its work,
1 if it has said why it has not.
-/

set_option autoImplicit false
namespace ContentBlocker.CommandLine

variable {m : Type → Type} [Monad m] [Host m]

/-- The file of the content blocker where none is given. -/
def defaultOut : String :=
  "content-blocker.json"

/-- The file of the output for advanced blocking where none is given. -/
def defaultAdvancedOut : String :=
  "advanced-blocking.json"

/-- The help. -/
def helpText : String :=
  "webkit-blocker commands:\n" ++
  "  convert --input <file|dir> [--out <file>] [--advanced-blocking] [--advanced-out <file>]\n" ++
  "          [--limit <n>] [--report <file>]\n" ++
  "  allowlist --converted <file> --domain <domain> [--remove] [--inverted]\n" ++
  "\n" ++
  "convert reads one filter list, or every *.txt list in a directory.\n" ++
  "defaults: --out " ++ defaultOut ++ ", --advanced-out " ++ defaultAdvancedOut

/-! ## Converting -/

/-- The report of a conversion, as it is written to a file. -/
def reportJson (time : String) (inputs : List FilePath) (result : ConversionResult) : Json :=
  .obj [("generatedAt", .str time),
    ("inputs", .ofStrings (inputs.map (·.text))),
    ("convertedCount", .ofNat result.convertedCount),
    ("totalConvertedCount", .ofNat result.totalConvertedCount),
    ("errorsCount", .ofNat result.errorsCount),
    ("overLimit", .bool result.overLimit),
    ("advancedBlockingConvertedCount", .ofNat result.advancedBlockingConvertedCount),
    ("report", result.report.toJson)]

/-- A conversion in a line. -/
def summary (result : ConversionResult) (out : FilePath) : String :=
  "converted=" ++ toString result.convertedCount ++
  " total=" ++ toString result.totalConvertedCount ++
  " errors=" ++ toString result.errorsCount ++
  " advanced=" ++ toString result.advancedBlockingConvertedCount ++
  " overLimit=" ++ (if result.overLimit then "true" else "false") ++
  " output=" ++ out.text

/-- Writes a file and makes the directory for it. -/
def writeOutput (path : FilePath) (text : String) : m Unit := do
  Host.makeDirectories path.parent
  Host.writeText path text

/-- Converts filter lists with flags that have been read. -/
def convertWith (flags : ConvertFlags) : m Nat := do
  let directory ← Host.workingDirectory
  let out := FilePath.resolve directory (flags.out.getD defaultOut)
  let advancedOut := FilePath.resolve directory (flags.advancedOut.getD defaultAdvancedOut)
  let loaded ← loadLists (FilePath.resolve directory flags.input)
  if loaded.files.isEmpty then
    Host.printError ("no filter lists found in: " ++ flags.input)
    return 1
  let options : ConversionOptions := {
    limit := flags.limit.getD (.ofNat maxEntries)
    advancedBlocking := flags.advancedBlocking }
  match convertLines loaded.lines options with
  | .error error => Host.fail (.conversion error)
  | .ok result =>
    writeOutput out result.converted
    if let some advanced := result.advancedBlocking then
      writeOutput advancedOut advanced
    if let some report := flags.report.filter (!·.isEmpty) then
      let time ← Host.now
      writeOutput (FilePath.resolve directory report)
        (reportJson time loaded.files result).indented
    Host.print (summary result out)
    if result.overLimit then
      Host.printError ("entry limit reached: " ++
        toString (result.totalConvertedCount - result.convertedCount) ++ " entries dropped")
    return 0

/-! ## Editing -/

/-- The content blocker that a text holds: nothing if it is not JSON, and a failure to name its file
if it is not an array. -/
def readBlocker (path : FilePath) (text : String) : Except Failure Blocker :=
  let trimmed := Text.trim text
  match Json.read trimmed with
  | none => .error .malformedJson
  | some (.arr entries) =>
    let count : Int := if trimmed == placeholder then 0 else entries.length
    .ok ⟨trimmed, count, count⟩
  | some _ => .error (.notRuleArray path)

/-- Edits a content blocker as the flags say. -/
def edit (flags : AllowlistFlags) (blocker : Blocker) : Except EditError Blocker :=
  let kind : AllowKind := if flags.inverted then .offSite else .onSite
  if flags.remove then blocker.remove kind flags.domain else blocker.add kind flags.domain

/-- Edits a content blocker with flags that have been read. -/
def editWith (flags : AllowlistFlags) : m Nat := do
  let directory ← Host.workingDirectory
  let path := FilePath.resolve directory flags.converted
  let text ← Host.readText path
  match readBlocker path text with
  | .error failure => Host.fail failure
  | .ok blocker =>
    match edit flags blocker with
    | .error error =>
      Host.printError error.message
      return 1
    | .ok edited =>
      Host.writeText path edited.text
      Host.print ((if flags.remove then "removed " else "added ") ++ flags.domain ++
        " entries=" ++ toString edited.count ++ " output=" ++ path.text)
      return 0

/-! ## All commands -/

/-- Carries out a command if its flags can be read, and otherwise says what is wrong with them. -/
def withFlags {α : Type} (flags : Except FlagError α) (command : α → m Nat) : m Nat := do
  match flags with
  | .error error =>
    Host.printError error.message
    return 1
  | .ok flags => command flags

/-- Carries out the command that the arguments name. -/
def run (arguments : List String) : m Nat := do
  let parsed := Arguments.ofList arguments
  match parsed.command with
  | "convert" => withFlags parsed.flags.forConvert convertWith
  | "allowlist" => withFlags parsed.flags.forAllowlist editWith
  | command =>
    Host.print helpText
    return if command = "help" then 0 else 1

end ContentBlocker.CommandLine
