import ContentBlocker.Entry.Action
import ContentBlocker.Entry.Trigger

/-!
# The entry of a rule

`Rule.compile` gives the entry of a rule, or the first reason why there is none: what rules it out
whatever else it says, then its trigger, then its action, and last a rule that would block whole
pages.
-/

set_option autoImplicit false
namespace ContentBlocker
namespace Rule

/-- Whether a rule changes the content of what is loaded. -/
def changesContent (rule : Rule) : Bool :=
  match rule.body with
  | .network network => network.isReplace
  | _ => false

/-- Whether a rule blocks the frames of other sites on every page.  Frames are loaded as documents,
as pages are, so such a rule would block the pages themselves. -/
def blocksPages (rule : Rule) : Bool :=
  match rule.body with
  | .network network =>
    !rule.isException && network.checksParty && network.isThirdParty &&
      network.permittedTypes.contains .subdocument && rule.permittedDomains.isEmpty
  | _ => false

/-- The entry of a rule, or why it has none. -/
def compile (rule : Rule) (advanced : Bool) : Except Rejection Entry := do
  if !rule.permittedDomains.isEmpty && !rule.restrictedDomains.isEmpty then
    throw .conflictingDomains
  if rule.changesContent then
    throw .replaceRule
  let trigger ← rule.trigger
  let action ← rule.action advanced
  if rule.blocksPages then
    throw .unscopedDocumentBlock
  return ⟨trigger, action⟩

end Rule
end ContentBlocker
