import ContentBlocker.Regex.Tree

/-!
# The url-filter language

The regular expressions that a content blocker may use as its url-filter: they are ASCII, they are
well formed, and they have no bounded repetition, alternation, lookaround, word boundary or
back-reference.  `check` finds the first reason why an expression is not in the language.
-/

set_option autoImplicit false
namespace ContentBlocker.Regex

/-- Why an expression is not in the url-filter language. -/
inductive Fault where
  | nonAscii
  | malformed
  | unsupported (c : Construct)
  deriving DecidableEq

namespace Fault

/-- The name of the reason. -/
def name : Fault → String
  | .nonAscii => "non-ascii"
  | .malformed => "syntax"
  | .unsupported .boundedRepetition => "bounded-repetition"
  | .unsupported .alternation => "alternation"
  | .unsupported .lookaround => "lookaround"
  | .unsupported .wordBoundary => "word-boundary"
  | .unsupported .backReference => "backreference"

/-- The reason in a sentence. -/
def message : Fault → String
  | .nonAscii => "Non-ASCII characters are not supported in url-filter."
  | .malformed => "Pattern is not a valid regular expression."
  | .unsupported .boundedRepetition =>
    "Bounded repetition \x7bm,n\x7d is not supported in url-filter."
  | .unsupported .alternation => "Alternation '|' is not supported in url-filter."
  | .unsupported .lookaround => "Lookahead and lookbehind groups are not supported in url-filter."
  | .unsupported .wordBoundary => "Word boundaries \\b and \\B are not supported in url-filter."
  | .unsupported .backReference => "Back-references are not supported in url-filter."

end Fault

/-- Whether every character is below U+0080. -/
def isAscii (source : List Char) : Bool :=
  source.all fun c => c.toNat < 0x80

theorem isAscii_eq_false_iff {source : List Char} :
    isAscii source = false ↔ ∃ c ∈ source, 0x80 ≤ c.toNat := by
  rw [isAscii, List.all_eq_false]
  refine exists_congr fun c => and_congr_right fun _ => ?_
  rw [decide_eq_true_eq, Nat.not_lt]

/-- The first reason why an expression is not in the url-filter language, if there is one. -/
def checkChars (source : List Char) : Option Fault :=
  if isAscii source then
    match parse? source with
    | none => some .malformed
    | some node => node.firstConstruct?.map .unsupported
  else
    some .nonAscii

/-- The first reason why an expression is not in the url-filter language, if there is one. -/
def check (source : String) : Option Fault :=
  checkChars source.toList

end ContentBlocker.Regex
