import ContentBlocker.Allowlist.Commas
import ContentBlocker.Allowlist.Rules
import ContentBlocker.Conversion.Basic

/-!
# Editing a content blocker

A content blocker that has been written can be edited without converting its filter list again: a
rule is converted on its own, and its entry is looked for in the text, put at its end, cut out of
it, or replaced by that of another rule.  The counts of entries follow.

`Blocker.add` and `Blocker.remove` work on the rule for a site, `Blocker.replace` on any two rules.
-/

set_option autoImplicit false
namespace ContentBlocker

open Text (occursIn pieces replaceChars)

/-- A content blocker as text, with the counts of its entries. -/
structure Blocker where
  text : String
  /-- The number of entries, a placeholder left out. -/
  count : Int
  /-- The number of entries that there would be without the limit. -/
  total : Int
  deriving DecidableEq

/-- Why an edit is refused. -/
inductive EditError where
  | notConvertible (rule reason : String)
  | present (rule : String)
  | absent (rule : String)
  deriving DecidableEq

/-- The refusal of an edit in words. -/
def EditError.message : EditError → String
  | .notConvertible rule reason => "rule cannot be converted: " ++ rule ++ " (" ++ reason ++ ")"
  | .present rule => "conversion result already contains rule: " ++ rule
  | .absent rule => "conversion result does not contain rule: " ++ rule

/-- The content blocker of a conversion. -/
def ConversionResult.blocker (result : ConversionResult) : Blocker :=
  ⟨result.converted, result.convertedCount, result.totalConvertedCount⟩

/-! ## The text of one rule -/

/-- Why a rule has no entry. -/
def Report.reason (report : Report) : String :=
  match report.rejected, report.issues with
  | rejected :: _, _ => rejected.rejection.message
  | [], issue :: _ => issue.message
  | [], [] => "no entry produced"

/-- The text of the entry of a rule, as it stands in a content blocker. -/
def entryText (rule : String) : Except EditError (List Char) :=
  let result := ConversionResult.ofList (.ofText rule) maxEntries false
  if result.convertedCount = 0 then
    .error (.notConvertible rule result.report.reason)
  else
    .ok (result.converted.toList.drop 1).dropLast

namespace Blocker

/-! ## Edits -/

/-- Whether a content blocker has no entry but a placeholder. -/
def isEmpty (b : Blocker) : Bool :=
  b.count == 0 || b.text == placeholder

/-- The content blocker with the entry of a rule at its end. -/
def addRule (rule : String) (b : Blocker) : Except EditError Blocker := do
  let entry ← entryText rule
  if occursIn entry b.text.toList then
    throw (.present rule)
  else if b.isEmpty then
    return ⟨String.ofList ('[' :: entry ++ [']']), 1, b.total + 1⟩
  else
    return ⟨String.ofList (b.text.toList.dropLast ++ ',' :: entry ++ [']']), b.count + 1,
      b.total + 1⟩

/-- The content blocker without the entries of a rule. -/
def removeRule (rule : String) (b : Blocker) : Except EditError Blocker := do
  let entry ← entryText rule
  if occursIn entry b.text.toList then
    let parts := pieces entry b.text.toList
    let removed : Int := parts.length - 1
    let text := repairCommas parts.flatten
    if text = ['[', ']'] then
      return ⟨placeholder, 0, max 0 (b.total - removed)⟩
    else
      return ⟨String.ofList text, b.count - removed, b.total - removed⟩
  else
    throw (.absent rule)

/-- The content blocker with the entries of one rule replaced by that of another. -/
def replace (rule newRule : String) (b : Blocker) : Except EditError Blocker := do
  let entry ← entryText rule
  if occursIn entry b.text.toList then
    let newEntry ← entryText newRule
    return { b with text := String.ofList (replaceChars entry newEntry b.text.toList) }
  else
    throw (.absent rule)

/-- The content blocker with the rule for a site. -/
def add (kind : AllowKind) (domain : String) (b : Blocker) : Except EditError Blocker :=
  b.addRule (kind.ruleText domain)

/-- The content blocker without the rule for a site. -/
def remove (kind : AllowKind) (domain : String) (b : Blocker) : Except EditError Blocker :=
  b.removeRule (kind.ruleText domain)

end Blocker
end ContentBlocker
