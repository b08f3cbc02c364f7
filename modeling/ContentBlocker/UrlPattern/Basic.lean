/-!
# Patterns of a URL

A network rule says by a pattern which URLs it is about.  A pattern is plain text in which `*`
stands for any text and `^` for one of `/`, `:`, `&`, `?` or for nothing.  A bar at its start ties
it to the start of the URL, two bars tie it to the host or to one label below, and a bar at its end
ties it to the end of the URL.

`UrlPattern.ofChars` takes a pattern apart, and `filterChars` writes the regular expression that
says the same.  A pattern is the text of its parts again (`chars_ofChars`).
-/

set_option autoImplicit false
namespace ContentBlocker

/-- Where in a URL a pattern has to start. -/
inductive StartAnchor where
  | anywhere
  /-- At the start of the URL. -/
  | url
  /-- At the host, or behind the first label of it. -/
  | host
  deriving DecidableEq

/-- A pattern of a URL, taken apart. -/
structure UrlPattern where
  start : StartAnchor
  /-- The characters between the anchors, with `*` and `^` among them. -/
  body : List Char
  /-- Whether the pattern has to end where the URL ends. -/
  stop : Bool
  deriving DecidableEq

namespace StartAnchor

/-- How the anchor is written in a pattern. -/
def chars : StartAnchor → List Char
  | .anywhere => []
  | .url => ['|']
  | .host => ['|', '|']

/-- The regular expression of the anchor. -/
def filterChars : StartAnchor → List Char
  | .anywhere => []
  | .url => ['^']
  | .host => "^[htpsw]+:\\/\\/([a-z0-9-]+\\.)?".toList

/-- Takes the anchor off a pattern. -/
def split : List Char → StartAnchor × List Char
  | '|' :: '|' :: rest => (.host, rest)
  | '|' :: rest => (.url, rest)
  | s => (.anywhere, s)

theorem chars_split (s : List Char) : (split s).1.chars ++ (split s).2 = s := by
  unfold split
  split <;> rfl

end StartAnchor

namespace UrlPattern

/-- Takes a bar off the end of a pattern. -/
def splitStop (s : List Char) : List Char × Bool :=
  if s.getLast? = some '|' then (s.dropLast, true) else (s, false)

theorem append_splitStop (s : List Char) :
    (splitStop s).1 ++ (if (splitStop s).2 then ['|'] else []) = s := by
  unfold splitStop
  split
  · rename_i h
    obtain ⟨body, rfl⟩ := List.getLast?_eq_some_iff.1 h
    simp
  · simp

/-- A pattern taken apart. -/
def ofChars (s : List Char) : UrlPattern :=
  let (start, rest) := StartAnchor.split s
  let (body, stop) := splitStop rest
  ⟨start, body, stop⟩

/-- The pattern as it is written. -/
def chars (p : UrlPattern) : List Char :=
  p.start.chars ++ p.body ++ if p.stop then ['|'] else []

/-- **Nothing is lost when a pattern is taken apart.** -/
theorem chars_ofChars (s : List Char) : (ofChars s).chars = s := by
  have hstop := append_splitStop (StartAnchor.split s).2
  have hstart := StartAnchor.chars_split s
  show (StartAnchor.split s).1.chars ++ (splitStop (StartAnchor.split s).2).1 ++
    (if (splitStop (StartAnchor.split s).2).2 then ['|'] else []) = s
  rw [List.append_assoc, hstop, hstart]

/-! ## The regular expression of a pattern -/

/-- Whether a character means something else in a regular expression, so that it is escaped. -/
def isSpecial (c : Char) : Bool :=
  ".+?$\x7b\x7d()[]/\\|".toList.contains c

/-- The regular expression of one character of a pattern. -/
def charFilter (c : Char) : List Char :=
  if c = '*' then ['.', '*']
  else if c = '^' then "[/:&?]?".toList
  else if isSpecial c then ['\\', c]
  else [c]

/-- The regular expression of a pattern. -/
def filterChars (p : UrlPattern) : List Char :=
  p.start.filterChars ++ p.body.flatMap charFilter ++ if p.stop then ['$'] else []

/-- The regular expression that says the same as a pattern. -/
def toFilter (pattern : String) : String :=
  String.ofList (ofChars pattern.toList).filterChars

/-! ## Patterns of any URL -/

/-- The patterns that are about every URL. -/
def anyUrlPatterns : List String :=
  ["", "*", "||*", "|*"]

/-- Whether a pattern is one of those that are about every URL. -/
def isAnyUrl (pattern : String) : Bool :=
  anyUrlPatterns.contains pattern

/-- Whether a pattern is tied to a host. -/
def isHostAnchored (pattern : String) : Bool :=
  ['|', '|'].isPrefixOf pattern.toList

end UrlPattern
end ContentBlocker
