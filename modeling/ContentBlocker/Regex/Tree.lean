import ContentBlocker.Regex.Token

/-!
# The tree of a regular expression

`Node.ofLexemes?` builds the tree of a list of tokens in one pass, with the groups that are still
open on a stack.  There is no tree where a bracket has no partner, or where a quantifier has nothing
that can be repeated before it: that is the start of an alternative, an anchor, a group that looks
behind, or another quantifier.  Each part goes with the characters it is written with, for the sake
of the repetitions.

`parse?` reads an expression.  Whether a number after a backslash is a back-reference depends on the
number of groups in the whole expression, and that does not depend on how such numbers are read, so
the expression is cut into tokens once to count its groups and once more for its tree.
-/

set_option autoImplicit false
namespace ContentBlocker.Regex

/-- Whether a quantifier may stand behind a part of an expression. -/
def Node.isRepeatable : Node → Bool
  | .atom _ => true
  | .group (.lookbehind _) _ => false
  | .group _ _ => true
  | .empty | .anchor _ | .repetition _ _ _ | .seq _ _ | .alt _ _ => false

/-- A part of an expression and the characters that it is written with. -/
structure Part where
  node : Node
  text : List Char

namespace Part

/-- Nothing. -/
def empty : Part :=
  ⟨.empty, []⟩

/-- A part before another. -/
def seq (first rest : Part) : Part :=
  ⟨.seq first.node rest.node, first.text ++ rest.text⟩

/-- A part as an alternative to another. -/
def alt (first rest : Part) : Part :=
  ⟨.alt first.node rest.node, first.text ++ '|' :: rest.text⟩

/-- A part and a quantifier with its characters. -/
def repeated (part : Part) (q : Quantifier) (text : List Char) : Part :=
  ⟨.repetition q (part.text ++ text) part.node, part.text ++ text⟩

end Part

/-- A group that is still open, or the whole expression: what it is for, the characters that opened
it, its finished alternatives, and the parts of the one that is being read.  Both lists start with
what was read last. -/
structure OpenGroup where
  kind : GroupKind
  opening : List Char
  alternatives : List Part
  parts : List Part

namespace OpenGroup

/-- A group that has just been opened. -/
def ofKind (kind : GroupKind) (opening : List Char) : OpenGroup :=
  ⟨kind, opening, [], []⟩

/-- The group with another part. -/
def push (g : OpenGroup) (part : Part) : OpenGroup :=
  { g with parts := part :: g.parts }

/-- The alternative that is being read, as a sequence of its parts. -/
def current (g : OpenGroup) : Part :=
  g.parts.foldl (fun rest part => part.seq rest) .empty

/-- The group at the start of another alternative. -/
def nextAlternative (g : OpenGroup) : OpenGroup :=
  { g with alternatives := g.current :: g.alternatives, parts := [] }

/-- The alternatives of the group. -/
def body (g : OpenGroup) : Part :=
  g.alternatives.foldl (fun rest a => a.alt rest) g.current

/-- The group, finished with the characters that close it. -/
def close (g : OpenGroup) (closing : List Char) : Part :=
  ⟨.group g.kind g.body.node, g.opening ++ (g.body.text ++ closing)⟩

/-- The group with a quantifier on its last part, if that can be repeated. -/
def quantify? (g : OpenGroup) (q : Quantifier) (text : List Char) : Option OpenGroup :=
  match g.parts with
  | [] => none
  | part :: parts =>
    if part.node.isRepeatable then some { g with parts := part.repeated q text :: parts } else none

end OpenGroup

/-- Builds a tree from the tokens that follow, inside the group `g` and the groups of the stack
around it. -/
def Node.ofLexemesFrom? (stack : List OpenGroup) (g : OpenGroup) : List Lexeme → Option Node
  | [] => if stack.isEmpty then some g.body.node else none
  | ⟨.atom a, text⟩ :: ls => ofLexemesFrom? stack (g.push ⟨.atom a, text⟩) ls
  | ⟨.anchor a, text⟩ :: ls => ofLexemesFrom? stack (g.push ⟨.anchor a, text⟩) ls
  | ⟨.bar, _⟩ :: ls => ofLexemesFrom? stack g.nextAlternative ls
  | ⟨.opening kind, text⟩ :: ls => ofLexemesFrom? (g :: stack) (.ofKind kind text) ls
  | ⟨.closing, text⟩ :: ls =>
    match stack with
    | [] => none
    | outer :: stack => ofLexemesFrom? stack (outer.push (g.close text)) ls
  | ⟨.quantifier q, text⟩ :: ls =>
    match g.quantify? q text with
    | none => none
    | some g => ofLexemesFrom? stack g ls

/-- The tree of a list of tokens. -/
def Node.ofLexemes? (ls : List Lexeme) : Option Node :=
  ofLexemesFrom? [] (.ofKind .plain []) ls

/-- The tree of a regular expression, if it is one. -/
def parse? (source : List Char) : Option Node :=
  match lexemes 0 source with
  | none => none
  | some ls => (lexemes (captureCount ls) source).bind Node.ofLexemes?

end ContentBlocker.Regex
