import ContentBlocker.Entry.Basic
import ContentBlocker.Entry.Rejection
import ContentBlocker.Rule.Basic
import ContentBlocker.Text.Lowercase
import ContentBlocker.Text.Search

/-!
# The action of a rule

`Rule.action` says what the entry of a rule does.  An exception takes back what was done before it;
that of a script or scriptlet still says which one.  Scripts and scriptlets need advanced blocking,
and a selector must not load anything.
-/

set_option autoImplicit false
namespace ContentBlocker

/-- What loads something where it stands in a selector, in whatever letter case. -/
def loadingToken : List Char :=
  "url(".toList

/-- Whether a selector loads nothing. -/
def isSafeSelector (selector : String) : Bool :=
  !Text.occursIn loadingToken (Text.lowerChars selector.toList)

/-- The action of a rule that hides what a selector selects. -/
def hideAction (isException extended : Bool) (selector : String) : Except Rejection Action :=
  if isSafeSelector selector then
    .ok <|
      if isException then { type := .ignorePrevious }
      else if extended then { type := .css, css := some selector }
      else { type := .hide, selector := some selector }
  else
    .error (.unsafeCss selector)

/-- The action of a rule. -/
def Rule.action (rule : Rule) (advanced : Bool) : Except Rejection Action :=
  match rule.body with
  | .network _ => .ok { type := if rule.isException then .ignorePrevious else .block }
  | .hide extended selector => hideAction rule.isException extended selector
  | .script source =>
    if advanced then
      .ok {
        type := if rule.isException then .ignorePrevious else .script
        script := some source }
    else
      .error (.advancedBlockingDisabled .script)
  | .scriptlet name parameter =>
    if advanced then
      .ok {
        type := if rule.isException then .ignorePrevious else .scriptlet
        scriptlet := some name
        scriptletParam := some parameter }
    else
      .error (.advancedBlockingDisabled .scriptlet)

end ContentBlocker
