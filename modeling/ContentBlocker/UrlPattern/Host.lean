import ContentBlocker.Text.Lowercase

/-!
# The host of a pattern

Some patterns are about one host: they begin with two bars, or with a web scheme with or without a
bar before it, and a host name follows.  `HostPattern.ofPattern?` finds the name, in lower case, and
the rest of the pattern.  A host name has two labels or more, joined by full stops, and a label is
made of letters, digits and hyphens.
-/

set_option autoImplicit false
namespace ContentBlocker

/-- A pattern that is about one host. -/
structure HostPattern where
  /-- The name of the host, in lower case. -/
  host : String
  /-- What stands behind the name. -/
  path : String
  deriving DecidableEq

namespace HostPattern

/-- What a pattern about one host begins with.  The first of these that fits counts. -/
def leads : List (List Char) :=
  ["||".toList, "|https://".toList, "|http://".toList, "https://".toList, "http://".toList]

/-- Whether a character ends the name of the host. -/
def endsHost (c : Char) : Bool :=
  c == '/' || c == '^' || c == ':' || c == '?' || c == '*' || c == '|'

/-- Whether a character may stand in a label of a host name in lower case. -/
def isLabelChar (c : Char) : Bool :=
  ('a' ≤ c && c ≤ 'z') || ('0' ≤ c && c ≤ '9') || c == '-'

/-- Whether a text is one or more characters of a label. -/
def isLabel (s : List Char) : Bool :=
  !s.isEmpty && s.all isLabelChar

/-- Whether a text is two or more labels joined by full stops. -/
def isHost (s : List Char) : Bool :=
  let labels := s.splitOn '.'
  2 ≤ labels.length && labels.all isLabel

/-- What stands behind the first of the `leads` that a pattern begins with. -/
def afterLead? (pattern : List Char) : Option (List Char) :=
  leads.findSome? (·.isPrefixOf? pattern)

/-- The host and the rest of a pattern that is about one host. -/
def ofPattern? (pattern : String) : Option HostPattern :=
  match afterLead? pattern.toList with
  | none => none
  | some rest =>
    let host := Text.lowerChars (rest.takeWhile (!endsHost ·))
    if isHost host then
      some ⟨String.ofList host, String.ofList (rest.dropWhile (!endsHost ·))⟩
    else
      none

end HostPattern
end ContentBlocker
