import ContentBlocker.Json.Writer

/-!
# What can be wrong with a rule

The reasons why a line of a filter list is no rule, each with the part of the line that it is about,
and their wording.
-/

set_option autoImplicit false
namespace ContentBlocker

/-- Why a line is not a rule. -/
inductive RuleError where
  | unsupportedMarker (marker : String)
  | emptyCosmeticRule (rule : String)
  | invalidDomain (domain : String)
  | invalidDomainModifier (modifier : String)
  | invalidReplaceModifier (modifier : String)
  | unsupportedModifier (modifier : String)
  | invalidScriptletCall (call : String)
  | unquotedArgument (call : String)
  | unterminatedArgument (call : String)
  | missingScriptletName (call : String)
  deriving DecidableEq

namespace RuleError

/-- The reason in words. -/
def message : RuleError → String
  | .unsupportedMarker marker => "unsupported cosmetic marker: " ++ Json.quote marker
  | .emptyCosmeticRule rule => "empty cosmetic rule: " ++ Json.quote rule
  | .invalidDomain domain => "invalid domain: " ++ Json.quote domain
  | .invalidDomainModifier modifier => "invalid domain modifier: " ++ Json.quote modifier
  | .invalidReplaceModifier modifier => "invalid replace modifier: " ++ Json.quote modifier
  | .unsupportedModifier modifier => "unsupported modifier: " ++ Json.quote modifier
  | .invalidScriptletCall call => "invalid scriptlet call: " ++ Json.quote call
  | .unquotedArgument call => "scriptlet arguments must be quoted: " ++ Json.quote call
  | .unterminatedArgument call => "unterminated scriptlet argument: " ++ Json.quote call
  | .missingScriptletName call => "scriptlet name is missing: " ++ Json.quote call

end RuleError
end ContentBlocker
