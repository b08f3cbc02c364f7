import ContentBlocker.Rule.Modifier
import ContentBlocker.UrlPattern.Basic

/-!
# Network rules

A network rule is a pattern of URLs, and perhaps a dollar sign and modifiers.  Two at signs before
it make it an exception.

In a rule that begins with a slash the dollar sign counts only behind a slash that no backslash
stands before, because the pattern may be a regular expression with slashes around it, where a
dollar sign means something else.
-/

set_option autoImplicit false
namespace ContentBlocker

/-- The place of the dollar sign behind the first slash that closes a regular expression.  The
number is the place of the first character that is looked at. -/
def separatorAfterSlash? (place : Nat) : List Char → Option Nat
  | [] => none
  | '\\' :: _ :: rest => separatorAfterSlash? (place + 2) rest
  | '/' :: '$' :: _ => some (place + 1)
  | _ :: rest => separatorAfterSlash? (place + 1) rest

/-- The place of the dollar sign before the modifiers of a rule. -/
def modifierSeparator? : List Char → Option Nat
  | '/' :: rest => separatorAfterSlash? 1 rest
  | s => s.idxOf? '$'

/-- The pattern of a rule and what stands behind its dollar sign. -/
def splitModifiers (s : List Char) : List Char × List Char :=
  match modifierSeparator? s with
  | none => (s, [])
  | some place => (s.take place, s.drop (place + 1))

/-- The inside of a pattern that is a regular expression between slashes. -/
def regexLiteral? (pattern : List Char) : Option (List Char) :=
  if 2 < pattern.length ∧ pattern.head? = some '/' ∧ pattern.getLast? = some '/' then
    some (pattern.drop 1).dropLast
  else
    none

/-- The regular expression of a pattern, unless it is one of any URL. -/
def patternRegex? (pattern : List Char) : Option String :=
  match regexLiteral? pattern with
  | some source => some (String.ofList source)
  | none =>
    if UrlPattern.isAnyUrl (String.ofList pattern) then none
    else some (UrlPattern.toFilter (String.ofList pattern))

/-- Takes the two at signs of an exception off a rule. -/
def splitException : List Char → Bool × List Char
  | '@' :: '@' :: rest => (true, rest)
  | s => (false, s)

/-- Reads a network rule. -/
def Rule.ofNetwork (text : List Char) : Except RuleError Rule := do
  let (isException, rest) := splitException text
  let (pattern, options) := splitModifiers rest
  let modifiers ← Modifier.readList options
  let domains := Modifier.listedDomains modifiers
  return {
    text := String.ofList text
    permittedDomains := permittedNames domains
    restrictedDomains := restrictedNames domains
    isException := isException
    body := .network <|
      Modifier.toNetworkRule isException (String.ofList pattern) (patternRegex? pattern) modifiers }

end ContentBlocker
