import ContentBlocker.CommandLine.Arguments
import ContentBlocker.Json.Writer
import ContentBlocker.Number.Reader
import ContentBlocker.Number.Writer
import ContentBlocker.Text.Lowercase

/-!
# The flags of the commands

What each command needs to know, read from the flags that it was given, and what is said where a
flag is missing or is no limit.
-/

set_option autoImplicit false
namespace ContentBlocker.CommandLine

/-- What is wrong with the flags of a command. -/
inductive FlagError where
  | missing (name : String)
  | invalidLimit (text : String)
  deriving DecidableEq

/-- What is wrong with the flags of a command, in words. -/
def FlagError.message : FlagError → String
  | .missing name => "missing required flag: --" ++ name
  | .invalidLimit text => "--limit expects a non-negative integer, got " ++ Json.quote text

/-- The flags of the command that converts filter lists. -/
structure ConvertFlags where
  input : String
  out : Option String
  advancedOut : Option String
  report : Option String
  limit : Option Number
  advancedBlocking : Bool
  deriving DecidableEq

/-- The flags of the command that edits a content blocker. -/
structure AllowlistFlags where
  converted : String
  /-- The site, in lower case and without blanks around it. -/
  domain : String
  remove : Bool
  inverted : Bool
  deriving DecidableEq

namespace Flags

/-- The value of a flag that must have one that is not empty. -/
def required (flags : Flags) (name : String) : Except FlagError String :=
  match (flags.text? name).filter (!·.isEmpty) with
  | some value => .ok value
  | none => .error (.missing name)

/-- A limit, which has to be a natural number. -/
def limit (flags : Flags) : Except FlagError (Option Number) :=
  match flags.text? "limit" with
  | none => .ok none
  | some text =>
    let number := Number.ofText text
    if number.toNat?.isSome then .ok (some number) else .error (.invalidLimit text)

/-- Reads the flags of the command that converts filter lists. -/
def forConvert (flags : Flags) : Except FlagError ConvertFlags := do
  let input ← flags.required "input"
  let limit ← flags.limit
  return {
    input := input
    out := flags.text? "out"
    advancedOut := flags.text? "advanced-out"
    report := flags.text? "report"
    limit := limit
    advancedBlocking := flags.isSet "advanced-blocking" }

/-- Reads the flags of the command that edits a content blocker. -/
def forAllowlist (flags : Flags) : Except FlagError AllowlistFlags := do
  let converted ← flags.required "converted"
  let domain := Text.lower (Text.trim ((flags.text? "domain").getD ""))
  if domain.isEmpty then
    throw (.missing "domain")
  return {
    converted := converted
    domain := domain
    remove := flags.isSet "remove"
    inverted := flags.isSet "inverted" }

end Flags
end ContentBlocker.CommandLine
