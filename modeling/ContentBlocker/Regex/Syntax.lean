/-!
# Regular expressions

The syntax tree of a regular expression.  Characters are numbers, since an escape may write any
16-bit unit and not only the units that are characters on their own.

`Node.constructs` lists what the url-filter language does not have, from the left and with an outer
construct before those inside it.  `Node.firstConstruct?` looks for the first of them, and tells a
repetition with bounds by the text it is written with: that ends in braces (`endsInBounds`).
-/

set_option autoImplicit false
namespace ContentBlocker.Regex

/-! ## Atoms -/

/-- The three classes that a letter after a backslash names. -/
inductive ClassKind where
  | digit
  | word
  | space
  deriving DecidableEq

/-- A class named by a letter: `\d`, or `\D` for its complement, and so on. -/
structure NamedClass where
  kind : ClassKind
  negated : Bool
  deriving DecidableEq

/-- An item of a set between square brackets. -/
inductive SetItem where
  | char (code : Nat)
  | range (first last : Nat)
  | named (c : NamedClass)
  /-- A reference to a named group, which matches nothing in a set. -/
  | reference (name : List Nat)
  deriving DecidableEq

/-- The group that a back-reference points to. -/
inductive Reference where
  | number (n : Nat)
  | name (codes : List Nat)
  deriving DecidableEq

/-- A part of an expression that matches one character, or the text of a group. -/
inductive Atom where
  | char (code : Nat)
  /-- The full stop. -/
  | any
  | named (c : NamedClass)
  | set (negated : Bool) (items : List SetItem)
  | reference (r : Reference)
  deriving DecidableEq

/-! ## Trees -/

/-- A condition on a place in the text. -/
inductive Anchor where
  | start
  | stop
  | boundary
  | notBoundary
  deriving DecidableEq

/-- What a group in parentheses is for. -/
inductive GroupKind where
  | plain
  /-- A group that can be referred to, by its number and perhaps by a name. -/
  | capture (name : Option (List Nat))
  | lookahead (negated : Bool)
  | lookbehind (negated : Bool)
  deriving DecidableEq

/-- How often the part before it may be repeated. -/
structure Quantifier where
  least : Nat
  /-- `none` is without bound. -/
  most : Option Nat
  /-- Whether it takes as little as it can. -/
  reluctant : Bool
  /-- Whether it is written with braces, and not as `*`, `+` or `?`. -/
  braced : Bool
  deriving DecidableEq

/-- The tree of a regular expression.  A sequence ends in `empty`, and three alternatives or more
are nested to the right. -/
inductive Node where
  | empty
  | atom (a : Atom)
  | anchor (a : Anchor)
  | group (kind : GroupKind) (body : Node)
  /-- A part with a quantifier, and the characters that both are written with. -/
  | repetition (q : Quantifier) (text : List Char) (body : Node)
  | seq (first rest : Node)
  | alt (first rest : Node)
  deriving DecidableEq

/-! ## What the url-filter language does not have -/

/-- A construct of regular expressions that the url-filter language does not have. -/
inductive Construct where
  | boundedRepetition
  | alternation
  | lookaround
  | wordBoundary
  | backReference
  deriving DecidableEq

namespace GroupKind

/-- Whether the group looks ahead or behind. -/
def isLookaround : GroupKind → Bool
  | .plain => false
  | .capture _ => false
  | .lookahead _ => true
  | .lookbehind _ => true

end GroupKind

namespace Anchor

/-- Whether the place is a border between a word and what is around it, or the inside of one. -/
def isWordBoundary : Anchor → Bool
  | .start => false
  | .stop => false
  | .boundary => true
  | .notBoundary => true

end Anchor

/-- Whether a text, read from its end, starts with the braces of a quantifier: between them there
are digits and at most one comma. -/
def startsWithBraces : List Char → Bool
  | '\x7d' :: text =>
    match text.dropWhile Char.isDigit with
    | ',' :: text => (text.dropWhile Char.isDigit).head? == some '\x7b'
    | text => text.head? == some '\x7b'
  | _ => false

/-- Whether a text ends in the braces of a quantifier and perhaps a question mark. -/
def endsInBounds (text : List Char) : Bool :=
  match text.reverse with
  | '?' :: text => startsWithBraces text
  | text => startsWithBraces text

namespace Node

/-- The constructs of an expression that the url-filter language does not have, from the left, and
each before those inside it.  Sets are not looked into. -/
def constructs : Node → List Construct
  | .empty => []
  | .atom (.reference _) => [.backReference]
  | .atom _ => []
  | .anchor a => if a.isWordBoundary then [.wordBoundary] else []
  | .group kind body =>
    if kind.isLookaround then .lookaround :: body.constructs else body.constructs
  | .repetition q _ body =>
    if q.braced then .boundedRepetition :: body.constructs else body.constructs
  | .seq first rest => first.constructs ++ rest.constructs
  | .alt first rest => .alternation :: (first.constructs ++ rest.constructs)

/-- The first construct of an expression that the url-filter language does not have. -/
def firstConstruct? : Node → Option Construct
  | .empty => none
  | .atom (.reference _) => some .backReference
  | .atom _ => none
  | .anchor a => if a.isWordBoundary then some .wordBoundary else none
  | .group kind body => if kind.isLookaround then some .lookaround else body.firstConstruct?
  -- The bounds alone do not tell `{0,1}`, `{0,}` and `{1,}` from `?`, `*` and `+`.
  | .repetition _ text body =>
    if endsInBounds text then some .boundedRepetition else body.firstConstruct?
  | .seq first rest => first.firstConstruct?.or rest.firstConstruct?
  | .alt _ _ => some .alternation

end Node
end ContentBlocker.Regex
