import ContentBlocker.Number.Reader
import ContentBlocker.Number.Writer
import ContentBlocker.Rule.Reader
import ContentBlocker.Entry.Rejection

/-!
# How a conversion is asked for, and how it fails

A conversion can be limited to a number of entries, it can have an output for advanced blocking, and
it can be strict.  It fails if the limit is no natural number.  A strict conversion also fails at
the first line that cannot be read, and if there is none at the first rule without an entry.
-/

set_option autoImplicit false
namespace ContentBlocker

/-- The most entries that a content blocker may have. -/
def maxEntries : Nat :=
  50000

/-- How a conversion is asked for. -/
structure ConversionOptions where
  /-- How many entries the content blocker may have. -/
  limit : Number := .ofNat maxEntries
  /-- Whether there is an output for the rules that need advanced blocking. -/
  advancedBlocking : Bool := false
  /-- Whether the conversion fails where it would leave something out. -/
  strict : Bool := false

/-- Why a conversion fails. -/
inductive ConversionError where
  | invalidLimit (limit : Number)
  | unreadableLine (issue : Issue)
  | rejectedRule (text : String) (rejection : Rejection)
  deriving DecidableEq

/-- The failure of a conversion in words. -/
def ConversionError.message : ConversionError → String
  | .invalidLimit limit => "invalid entry limit: " ++ limit.text
  | .unreadableLine issue =>
    "cannot parse rule at line " ++ toString issue.line ++ ": " ++ issue.text ++ " (" ++
      issue.message ++ ")"
  | .rejectedRule text rejection =>
    "cannot convert rule " ++ Json.quote text ++ ": " ++ rejection.message

end ContentBlocker
