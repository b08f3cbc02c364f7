import ContentBlocker.Rule.Error
import ContentBlocker.Text.Blank
import ContentBlocker.Text.Lowercase

/-!
# Lists of domains in rules

A rule lists domains with a separator between them.  A domain behind a tilde is one on which the
rule does not apply.  Blanks around a domain do not count, and neither do parts that are blank.
-/

set_option autoImplicit false
namespace ContentBlocker

/-- A domain that a rule names. -/
structure ListedDomain where
  /-- Whether the rule does not apply there. -/
  restricted : Bool
  /-- The domain, in lower case. -/
  name : String
  deriving DecidableEq

namespace ListedDomain

/-- Whether a character may stand in a domain of a rule, in lower case. -/
def isDomainChar (c : Char) : Bool :=
  ('a' ≤ c && c ≤ 'z') || ('0' ≤ c && c ≤ '9') || c == '*' || c == '.' || c == '-'

/-- Reads a domain without the tilde before it. -/
def ofName (restricted : Bool) (name : List Char) : Except RuleError ListedDomain :=
  let lowered := Text.lowerChars name
  if !lowered.isEmpty && lowered.all isDomainChar then
    .ok ⟨restricted, String.ofList lowered⟩
  else
    .error (.invalidDomain (String.ofList lowered))

/-- Reads a part of a list that is not blank. -/
def ofChars : List Char → Except RuleError ListedDomain
  | '~' :: name => ofName true name
  | name => ofName false name

/-- The parts of a list that are not blank, without the blanks around them. -/
def parts (separator : Char) (s : List Char) : List (List Char) :=
  ((s.splitOn separator).map Text.trimChars).filter (!·.isEmpty)

/-- Reads a list of domains, up to the first that is not one. -/
def readList (separator : Char) (s : List Char) : Except RuleError (List ListedDomain) :=
  (parts separator s).mapM ofChars

end ListedDomain

/-- The names of those domains of a list on which the rule applies. -/
def permittedNames (domains : List ListedDomain) : List String :=
  (domains.filter (!·.restricted)).map (·.name)

/-- The names of those domains of a list on which the rule does not apply. -/
def restrictedNames (domains : List ListedDomain) : List String :=
  (domains.filter (·.restricted)).map (·.name)

end ContentBlocker
