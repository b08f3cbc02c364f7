import ContentBlocker.Domain.Suffixes
import ContentBlocker.Text.Blank
import ContentBlocker.Text.Lowercase

/-!
# The domains that a rule is about

A rule names the domains on which it applies, or those on which it does not.  `Domain.expand` gives
the domains that one name stands for, `Domain.resolve` those of a list of names without repeats, and
`Scope.ofDomains?` the scope of a rule, which cannot be told by naming domains of both kinds.
-/

set_option autoImplicit false
namespace ContentBlocker
namespace Domain

/-- The domains that a name in lower case and without blanks around it stands for: none where it is
empty, the suffixes for the wildcard alone, the base below each suffix for a name that ends in the
wildcard, and otherwise itself. -/
def expandName (name : List Char) : List String :=
  if name = [] then
    []
  else if name = wildcard.toList then
    suffixes
  else if wildcard.toList.isSuffixOf name then
    let base := name.take (name.length - 2)
    suffixes.map fun suffix => String.ofList (base ++ '.' :: suffix.toList)
  else
    [String.ofList name]

/-- The domains that a name stands for. -/
def expand (name : String) : List String :=
  expandName (Text.lowerChars (Text.trimChars name.toList))

/-- The domains that the names stand for, each at its first place only. -/
def resolve (names : List String) : List String :=
  (names.flatMap expand).eraseDups

end Domain

/-- The domains on which a rule applies. -/
inductive Scope where
  | everywhere
  | only (domains : List String)
  | except (domains : List String)
  deriving DecidableEq

namespace Scope

/-- The domains on which alone a rule applies. -/
def only? : Scope → Option (List String)
  | .everywhere => none
  | .only domains => some domains
  | .except _ => none

/-- The domains on which a rule does not apply. -/
def except? : Scope → Option (List String)
  | .everywhere => none
  | .only _ => none
  | .except domains => some domains

/-- The scope of a rule that names the domains on which it applies or does not.  There is none if it
names domains of both kinds. -/
def ofDomains? (permitted restricted : List String) : Option Scope :=
  match permitted, restricted with
  | [], [] => some .everywhere
  | permitted, [] => some (.only (Domain.resolve permitted))
  | [], restricted => some (.except (Domain.resolve restricted))
  | _, _ => none

end Scope
end ContentBlocker
