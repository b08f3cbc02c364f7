import ContentBlocker.Rule.Cosmetic
import ContentBlocker.Rule.Network
import ContentBlocker.Text.Lines

/-!
# Reading filter lists

A filter list is a text with a rule on each line.  A line that is blank, a comment, or a header in
square brackets has no rule.  `Rule.ofText?` reads one line, and `FilterList.ofText` all lines of a
text: the rules of those that can be read, and an issue for each of the others, with its number.
-/

set_option autoImplicit false
namespace ContentBlocker

/-- Whether a line without blanks around it has no rule. -/
def isRemark (line : List Char) : Bool :=
  line.isEmpty || line.head? == some '!' ||
    (line.head? == some '[' && line.getLast? == some ']')

/-- Reads a line; `none` is a line without a rule. -/
def Rule.ofText? (line : String) : Except RuleError (Option Rule) :=
  let text := Text.trimChars line.toList
  if isRemark text then
    .ok none
  else
    match CosmeticText.ofChars? text with
    | some parts => (parts.toRule (String.ofList text)).map some
    | none => (Rule.ofNetwork text).map some

/-- A line that cannot be read. -/
structure Issue where
  /-- The number of the line, counted from one. -/
  line : Nat
  /-- The line without blanks around it. -/
  text : String
  error : RuleError
  deriving DecidableEq

/-- The wording of an issue. -/
def Issue.message (issue : Issue) : String :=
  issue.error.message

/-- What is read from a filter list. -/
structure FilterList where
  rules : List Rule
  issues : List Issue
  deriving DecidableEq

namespace FilterList

/-- A list with nothing in it. -/
def empty : FilterList :=
  ⟨[], []⟩

/-- What two lists hold together. -/
def append (a b : FilterList) : FilterList :=
  ⟨a.rules ++ b.rules, a.issues ++ b.issues⟩

instance : Append FilterList :=
  ⟨append⟩

/-- What is read from the line with a given number. -/
def ofLine (number : Nat) (line : String) : FilterList :=
  match Rule.ofText? line with
  | .ok none => empty
  | .ok (some rule) => ⟨[rule], []⟩
  | .error error => ⟨[], [⟨number, Text.trim line, error⟩]⟩

/-- What is read from lines, the first of which has the given number. -/
def ofLinesFrom (number : Nat) (lines : List String) : FilterList :=
  let read := (lines.zipIdx number).map fun (line, n) => ofLine n line
  ⟨read.flatMap (·.rules), read.flatMap (·.issues)⟩

/-- What is read from a text. -/
def ofText (text : String) : FilterList :=
  ofLinesFrom 1 (Text.lines text)

theorem ofLinesFrom_append (number : Nat) (a b : List String) :
    ofLinesFrom number (a ++ b) = ofLinesFrom number a ++ ofLinesFrom (number + a.length) b := by
  show ofLinesFrom _ _ = append _ _
  simp [ofLinesFrom, append, List.zipIdx_append]

end FilterList
end ContentBlocker
