import ContentBlocker.Rule.ContentType

/-!
# Rules

A rule of a filter list.  Every rule has its text, the domains on which it applies or does not, and
whether it is an exception, which takes back what other rules do.  What it does is its body: block
what is loaded from some URLs, hide parts of pages, or run a script or a scriptlet.
-/

set_option autoImplicit false
namespace ContentBlocker

/-- A rule about what is loaded. -/
structure NetworkRule where
  /-- The pattern of the URLs, as the rule has it. -/
  pattern : String := ""
  /-- The regular expression of the URLs, where one is known. -/
  regex : Option String := none
  permittedTypes : List ContentType := []
  restrictedTypes : List ContentType := []
  /-- Whether it matters that the URL is of the site that loads it or of another. -/
  checksParty : Bool := false
  /-- Whether it has to be of another site. -/
  isThirdParty : Bool := false
  matchesCase : Bool := false
  /-- Whether the rule takes back all that is done on the pages it names. -/
  isDocumentException : Bool := false
  /-- Whether the rule changes the content of what is loaded. -/
  isReplace : Bool := false
  deriving DecidableEq

/-- What a rule does. -/
inductive RuleBody where
  | network (rule : NetworkRule)
  /-- Hides what a selector selects; an extended selector has more than style sheets know. -/
  | hide (extended : Bool) (selector : String)
  | script (source : String)
  | scriptlet (name : String) (parameter : String)
  deriving DecidableEq

/-- A rule of a filter list. -/
structure Rule where
  text : String
  permittedDomains : List String
  restrictedDomains : List String
  isException : Bool
  body : RuleBody
  deriving DecidableEq

/-- The types of rules. -/
inductive RuleType where
  | network
  | hide
  | extendedHide
  | script
  | scriptlet
  deriving DecidableEq

namespace RuleType

/-- All types of rules. -/
def all : List RuleType :=
  [.network, .hide, .extendedHide, .script, .scriptlet]

/-- The name of a type. -/
def name : RuleType → String
  | .network => "network"
  | .hide => "css-hide"
  | .extendedHide => "extended-css-hide"
  | .script => "script-inject"
  | .scriptlet => "scriptlet-inject"

theorem mem_all (t : RuleType) : t ∈ all := by
  cases t <;> decide

end RuleType

namespace Rule

/-- The type of a rule. -/
def type (rule : Rule) : RuleType :=
  match rule.body with
  | .network _ => .network
  | .hide false _ => .hide
  | .hide true _ => .extendedHide
  | .script _ => .script
  | .scriptlet _ _ => .scriptlet

/-- Whether a rule needs more than style sheets and a list of URLs to carry it out. -/
def isAdvanced (rule : Rule) : Bool :=
  match rule.body with
  | .network _ => false
  | .hide extended _ => extended
  | .script _ => true
  | .scriptlet _ _ => true

end Rule
end ContentBlocker
