import ContentBlocker.Conversion.Options
import ContentBlocker.Conversion.Statistics
import ContentBlocker.Conversion.Verdict
import ContentBlocker.Entry.Wire

/-!
# Conversion of filter lists

`convert` turns a filter list into a content blocker.  The result has the text of the content
blocker, the text of the output for advanced blocking if that was asked for, and a report of what
was left out and of what was counted.

A content blocker must not be empty, so in place of none it has one entry that does nothing
(`placeholder`).
-/

set_option autoImplicit false
namespace ContentBlocker

/-- What a conversion has left out and counted. -/
structure Report where
  rejected : List RejectedRule
  issues : List Issue
  statistics : Statistics
  deriving DecidableEq

/-- What comes out of a conversion. -/
structure ConversionResult where
  /-- The content blocker. -/
  converted : String
  /-- The number of entries of the content blocker, a placeholder left out. -/
  convertedCount : Nat
  /-- The number of entries that there would be without the limit. -/
  totalConvertedCount : Nat
  errorsCount : Nat
  overLimit : Bool
  /-- The output for advanced blocking, if it was asked for. -/
  advancedBlocking : Option String
  advancedBlockingConvertedCount : Nat
  report : Report
  deriving DecidableEq

/-- An entry that does nothing. -/
def placeholderEntry : Entry where
  trigger := { urlFilter := ".*", ifDomain := some ["domain.com"] }
  action := { type := .ignorePrevious }

/-- The content blocker that does nothing. -/
def placeholder : String :=
  serializeEntries [placeholderEntry]

/-- What comes out of a filter list whose rules have been sorted, with at most `limit` entries. -/
def ConversionResult.ofSorting (list : FilterList) (sorting : Sorting) (limit : Nat)
    (advancedBlocking : Bool) : ConversionResult :=
  let kept := sorting.entries.take limit
  { converted := if kept.isEmpty then placeholder else serializeEntries kept
    convertedCount := kept.length
    totalConvertedCount := sorting.entries.length
    errorsCount := list.issues.length + sorting.rejected.length
    overLimit := limit < sorting.entries.length
    advancedBlocking :=
      if advancedBlocking then some (serializeEntries sorting.advanced) else none
    advancedBlockingConvertedCount := sorting.advanced.length
    report := {
      rejected := sorting.rejected
      issues := list.issues
      statistics := .of list.rules (kept ++ sorting.advanced)
        (sorting.rejected.map (·.rejection.reason)) } }

/-- What comes out of a filter list if all that cannot be converted is left out. -/
def ConversionResult.ofList (list : FilterList) (limit : Nat) (advancedBlocking : Bool) :
    ConversionResult :=
  .ofSorting list (.ofRules advancedBlocking list.rules) limit advancedBlocking

/-- What comes out of an empty filter list. -/
def ConversionResult.empty : ConversionResult :=
  .ofList .empty maxEntries false

/-- The first thing that a conversion has left out. -/
def Report.firstFailure? (report : Report) : Option ConversionError :=
  match report.issues, report.rejected with
  | issue :: _, _ => some (.unreadableLine issue)
  | [], rejected :: _ => some (.rejectedRule rejected.text rejected.rejection)
  | [], [] => none

namespace ConversionOptions

/-- The limit of a conversion.  It has to be a natural number. -/
def entryLimit (options : ConversionOptions) : Except ConversionError Nat :=
  match options.limit.toNat? with
  | some limit => .ok limit
  | none => .error (.invalidLimit options.limit)

/-- The rules of a list.  A strict conversion fails at the first line that could not be read. -/
def rulesOf (options : ConversionOptions) (list : FilterList) :
    Except ConversionError (List Rule) :=
  match list.issues with
  | [] => .ok list.rules
  | issue :: _ => if options.strict then .error (.unreadableLine issue) else .ok list.rules

/-- What becomes of a rule.  A strict conversion fails at a rule without an entry. -/
def judge (options : ConversionOptions) (rule : Rule) :
    Except ConversionError (String × Verdict) :=
  match rule.judge options.advancedBlocking with
  | .rejected rejection =>
    if options.strict then .error (.rejectedRule rule.text rejection)
    else .ok (rule.text, .rejected rejection)
  | verdict => .ok (rule.text, verdict)

end ConversionOptions

/-- Converts a filter list, rule by rule. -/
def convert (list : FilterList) (options : ConversionOptions) :
    Except ConversionError ConversionResult := do
  let limit ← options.entryLimit
  let rules ← options.rulesOf list
  let judged ← rules.mapM options.judge
  return .ofSorting list (.ofVerdicts judged) limit options.advancedBlocking

/-- Converts the lines of a filter list. -/
def convertLines (lines : List String) (options : ConversionOptions) :
    Except ConversionError ConversionResult :=
  convert (.ofText (Text.unlines lines)) options

/-- Converts rules that have been read already. -/
def convertRules (rules : List Rule) (options : ConversionOptions) :
    Except ConversionError ConversionResult :=
  convert ⟨rules, []⟩ options

/-! ## Reports -/

/-- A rejected rule as an object. -/
def RejectedRule.toJson (rejected : RejectedRule) : Json :=
  .obj [("ruleText", .str rejected.text), ("reason", .str rejected.rejection.reason.name),
    ("message", .str rejected.rejection.message)]

/-- A line that could not be read as an object. -/
def Issue.toJson (issue : Issue) : Json :=
  .obj [("line", .ofNat issue.line), ("ruleText", .str issue.text),
    ("message", .str issue.message)]

/-- A report as an object. -/
def Report.toJson (report : Report) : Json :=
  .obj [("rejected", .arr (report.rejected.map (·.toJson))),
    ("issues", .arr (report.issues.map (·.toJson))), ("stats", report.statistics.toJson)]

end ContentBlocker
