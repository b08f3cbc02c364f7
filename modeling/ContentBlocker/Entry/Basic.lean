/-!
# Entries of a content blocker

A content blocker is a list of entries.  An entry says by its trigger what is loaded and by whom,
and by its action what happens then.  In both a property that is absent differs from one that is
there with an empty list or text, or with `false`.
-/

set_option autoImplicit false
namespace ContentBlocker

/-- The kinds of resources that a trigger tells apart. -/
inductive ResourceType where
  | image
  | styleSheet
  | script
  | media
  | raw
  | font
  | document
  /-- What is listed for the reserved words among the content types.  They are names of inherited
  properties and not of kinds of resources, so there is no name for it. -/
  | unnamed
  deriving DecidableEq

/-- Whether a resource is of the site that loads it. -/
inductive LoadType where
  | firstParty
  | thirdParty
  deriving DecidableEq

/-- What an entry is about. -/
structure Trigger where
  /-- A regular expression of the URL. -/
  urlFilter : String
  ifDomain : Option (List String) := none
  unlessDomain : Option (List String) := none
  resourceType : Option (List ResourceType) := none
  loadType : Option (List LoadType) := none
  caseSensitive : Option Bool := none
  deriving DecidableEq

/-- The types of actions. -/
inductive ActionType where
  | block
  | hide
  /-- Style rules, for selectors that the browser does not know. -/
  | css
  | script
  | scriptlet
  /-- Takes back what the entries before have done. -/
  | ignorePrevious
  deriving DecidableEq

/-- What an entry does. -/
structure Action where
  type : ActionType
  selector : Option String := none
  css : Option String := none
  script : Option String := none
  scriptlet : Option String := none
  scriptletParam : Option String := none
  deriving DecidableEq

/-- An entry of a content blocker. -/
structure Entry where
  trigger : Trigger
  action : Action
  deriving DecidableEq

namespace ResourceType

/-- The name of a kind of resources, if it has one. -/
def name? : ResourceType → Option String
  | .image => some "image"
  | .styleSheet => some "style-sheet"
  | .script => some "script"
  | .media => some "media"
  | .raw => some "raw"
  | .font => some "font"
  | .document => some "document"
  | .unnamed => none

/-- The kinds of resources that have a name. -/
def named : List ResourceType :=
  [.image, .styleSheet, .script, .media, .raw, .font, .document]

end ResourceType

namespace LoadType

/-- The name of a load type. -/
def name : LoadType → String
  | .firstParty => "first-party"
  | .thirdParty => "third-party"

end LoadType

namespace ActionType

/-- The name of a type of actions. -/
def name : ActionType → String
  | .block => "block"
  | .hide => "css-display-none"
  | .css => "css"
  | .script => "script"
  | .scriptlet => "scriptlet"
  | .ignorePrevious => "ignore-previous-rules"

/-- All types of actions. -/
def all : List ActionType :=
  [.block, .hide, .css, .script, .scriptlet, .ignorePrevious]

theorem mem_all (t : ActionType) : t ∈ all := by
  cases t <;> decide

end ActionType
end ContentBlocker
