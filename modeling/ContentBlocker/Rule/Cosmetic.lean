import ContentBlocker.Rule.Basic
import ContentBlocker.Rule.DomainList
import ContentBlocker.Rule.Scriptlet
import ContentBlocker.Text.Search

/-!
# Cosmetic rules

A cosmetic rule is a list of domains, a marker, and what is done on those domains.  The marker is
the first thing in the rule that begins with a number sign, and it says what is done: `##` hides
what a selector selects, `#?#` does so with an extended selector, `#%#` runs a script, and `#$#` and
`#$?#` change styles, which is not supported.  With an at sign behind the first number sign the rule
is an exception.

A text is a cosmetic rule only if what stands behind the marker is on one line.
-/

set_option autoImplicit false
namespace ContentBlocker

/-- What a marker says is done. -/
inductive MarkerKind where
  | hide
  | extendedHide
  | script
  | style
  | extendedStyle
  deriving DecidableEq

/-- The marker of a cosmetic rule. -/
structure Marker where
  isException : Bool
  kind : MarkerKind
  deriving DecidableEq

namespace MarkerKind

/-- What stands between the two number signs of a marker. -/
def chars : MarkerKind → List Char
  | .hide => []
  | .extendedHide => ['?']
  | .script => ['%']
  | .style => ['$']
  | .extendedStyle => ['$', '?']

/-- Reads a marker from behind its first number sign and the at sign there may be. -/
def read : List Char → Option (MarkerKind × List Char)
  | '#' :: rest => some (.hide, rest)
  | '?' :: '#' :: rest => some (.extendedHide, rest)
  | '%' :: '#' :: rest => some (.script, rest)
  | '$' :: '#' :: rest => some (.style, rest)
  | '$' :: '?' :: '#' :: rest => some (.extendedStyle, rest)
  | _ => none

end MarkerKind

namespace Marker

/-- How a marker is written. -/
def chars (m : Marker) : List Char :=
  '#' :: (if m.isException then ['@'] else []) ++ m.kind.chars ++ ['#']

/-- Reads a marker. -/
def read : List Char → Option (Marker × List Char)
  | '#' :: '@' :: rest => (MarkerKind.read rest).map fun (kind, rest) => (⟨true, kind⟩, rest)
  | '#' :: rest => (MarkerKind.read rest).map fun (kind, rest) => (⟨false, kind⟩, rest)
  | _ => none

/-- A marker is read wherever it is written. -/
theorem read_chars (m : Marker) (rest : List Char) : read (m.chars ++ rest) = some (m, rest) := by
  obtain ⟨isException, kind⟩ := m
  cases isException <;> cases kind <;> rfl

end Marker

/-! ## The parts of a cosmetic rule -/

/-- Whether a character ends a line. -/
def isLineEnd (c : Char) : Bool :=
  c == '\n' || c == '\r' || c == '\u2028' || c == '\u2029'

/-- A cosmetic rule in its parts. -/
structure CosmeticText where
  domains : List Char
  marker : Marker
  content : List Char
  deriving DecidableEq

/-- The parts of a text that is a cosmetic rule. -/
def CosmeticText.ofChars? (s : List Char) : Option CosmeticText :=
  match Marker.read (s.dropWhile (· != '#')) with
  | none => none
  | some (marker, content) =>
    if content.any isLineEnd then none else some ⟨s.takeWhile (· != '#'), marker, content⟩

/-! ## Reading -/

/-- What only an extended selector has. -/
def extendedTokens : List String :=
  [":has(", ":has-text(", ":contains(", ":-abp-has(", ":-abp-contains(", ":matches-css(",
   ":matches-css-before(", ":matches-css-after(", ":matches-attr(", ":matches-property(",
   ":xpath(", ":nth-ancestor(", ":upward(", ":remove(", ":if(", ":if-not(", "[-ext-"]

/-- Whether a selector has something that only an extended selector has. -/
def isExtendedSelector (selector : List Char) : Bool :=
  extendedTokens.any fun token => Text.occursIn token.toList selector

/-- What is done by the cosmetic rules that are supported. -/
inductive CosmeticKind where
  | hide
  | extendedHide
  | script
  deriving DecidableEq

/-- What a marker says is done, if that is supported. -/
def MarkerKind.supported? : MarkerKind → Option CosmeticKind
  | .hide => some .hide
  | .extendedHide => some .extendedHide
  | .script => some .script
  | .style => none
  | .extendedStyle => none

/-- What a cosmetic rule with a given content does. -/
def RuleBody.ofContent (kind : CosmeticKind) (content : List Char) : Except RuleError RuleBody :=
  match kind with
  | .hide => .ok (.hide (isExtendedSelector content) (String.ofList content))
  | .extendedHide => .ok (.hide true (String.ofList content))
  | .script =>
    if ScriptletCall.opening.isPrefixOf content then
      (ScriptletCall.ofChars content).map fun call => .scriptlet call.name call.toJson.compact
    else
      .ok (.script (String.ofList content))

/-- Reads a cosmetic rule with a given text, once that is in its parts. -/
def CosmeticText.toRule (text : String) (parts : CosmeticText) : Except RuleError Rule :=
  match parts.marker.kind.supported? with
  | none => .error (.unsupportedMarker (String.ofList parts.marker.chars))
  | some kind => do
    let content := Text.trimChars parts.content
    if content.isEmpty then
      throw (.emptyCosmeticRule text)
    let domains ← ListedDomain.readList ',' parts.domains
    let body ← RuleBody.ofContent kind content
    return {
      text := text
      permittedDomains := permittedNames domains
      restrictedDomains := restrictedNames domains
      isException := parts.marker.isException
      body := body }

end ContentBlocker
