import ContentBlocker.Regex.Tree

/-!
# The constructs of an expression and of its tokens

The tree of an expression is built in one pass over its tokens, with the open groups on a stack.
Each of the constructs that the url-filter language lacks comes in with one token: a bar, a word
boundary, a quantifier in braces, a back-reference, or the bracket that opens a group which looks
ahead or behind.  So the tree has as many of each construct as its tokens have
(`count_constructs_ofLexemes?`), wherever they stand in it.

The pass keeps an invariant: what the finished parts, the finished alternatives and the open groups
hold, together with what the tokens to come will bring, does not change (`pending`).
-/

set_option autoImplicit false
namespace ContentBlocker.Regex

/-! ## Constructs of tokens -/

namespace GroupKind

/-- The construct that a group of a kind is. -/
def constructs (kind : GroupKind) : List Construct :=
  if kind.isLookaround then [.lookaround] else []

end GroupKind

namespace Token

/-- The construct that comes in with a token. -/
def constructs : Token → List Construct
  | .atom (.reference _) => [.backReference]
  | .atom _ => []
  | .anchor a => if a.isWordBoundary then [.wordBoundary] else []
  | .opening kind => kind.constructs
  | .closing => []
  | .bar => [.alternation]
  | .quantifier q => if q.braced then [.boundedRepetition] else []

end Token

namespace Lexeme

/-- The construct that comes in with a token. -/
def constructs (l : Lexeme) : List Construct :=
  l.token.constructs

end Lexeme

namespace Node

theorem constructs_atom (a : Atom) : (Node.atom a).constructs = (Token.atom a).constructs := by
  cases a <;> rfl

theorem constructs_group (kind : GroupKind) (body : Node) :
    (Node.group kind body).constructs = kind.constructs ++ body.constructs := by
  rw [constructs, GroupKind.constructs]
  split <;> rfl

theorem constructs_repetition (q : Quantifier) (text : List Char) (body : Node) :
    (Node.repetition q text body).constructs =
      (Token.quantifier q).constructs ++ body.constructs := by
  rw [constructs, Token.constructs]
  split <;> rfl

end Node

namespace Part

/-- The constructs of a part. -/
def constructs (part : Part) : List Construct :=
  part.node.constructs

end Part

/-! ## Constructs of open groups -/

variable (k : Construct)

namespace OpenGroup

/-- How many constructs of a kind the parts and the alternatives of a group have.  Behind each
finished alternative there has been a bar. -/
def count (g : OpenGroup) : Nat :=
  (g.alternatives.flatMap fun a => .alternation :: a.constructs).count k +
    (g.parts.flatMap (·.constructs)).count k

theorem count_ofKind (kind : GroupKind) (opening : List Char) :
    (ofKind kind opening).count k = 0 := rfl

theorem count_push (g : OpenGroup) (part : Part) :
    (g.push part).count k = g.count k + part.constructs.count k := by
  rw [count, count, push, List.flatMap_cons, List.count_append, Nat.add_assoc]
  congr 1
  exact Nat.add_comm _ _

/-- The parts are a sequence, whatever it ends in. -/
private theorem count_foldl_seq (parts : List Part) (rest : Part) :
    (parts.foldl (fun rest part => part.seq rest) rest).constructs.count k =
      (parts.flatMap (·.constructs)).count k + rest.constructs.count k := by
  induction parts generalizing rest with
  | nil => simp
  | cons part parts ih =>
    have hseq : (part.seq rest).constructs = part.constructs ++ rest.constructs := rfl
    rw [List.foldl_cons, ih, hseq, List.flatMap_cons, List.count_append, List.count_append]
    omega

theorem count_current (g : OpenGroup) :
    g.current.constructs.count k = (g.parts.flatMap (·.constructs)).count k := by
  rw [current, count_foldl_seq]
  rfl

theorem count_nextAlternative (g : OpenGroup) :
    g.nextAlternative.count k = g.count k + Token.bar.constructs.count k := by
  have hcurrent := g.count_current k
  rw [count, count, nextAlternative, List.flatMap_cons, List.count_append, List.count_cons,
    hcurrent, List.flatMap_nil, List.count_nil, Token.constructs, List.count_singleton]
  omega

private theorem count_foldl_alt (alternatives : List Part) (last : Part) :
    (alternatives.foldl (fun rest a => a.alt rest) last).constructs.count k =
      (alternatives.flatMap fun a => .alternation :: a.constructs).count k +
        last.constructs.count k := by
  induction alternatives generalizing last with
  | nil => simp
  | cons a alternatives ih =>
    have halt : (a.alt last).constructs = .alternation :: (a.constructs ++ last.constructs) := rfl
    rw [List.foldl_cons, ih, halt, List.flatMap_cons, List.count_append,
      List.count_cons, List.count_cons, List.count_append]
    omega

theorem count_body (g : OpenGroup) : g.body.constructs.count k = g.count k := by
  rw [body, count_foldl_alt, count_current, count]

/-- A quantifier goes to the last part, which can be repeated. -/
theorem eq_of_quantify? {g g' : OpenGroup} {q : Quantifier} {text : List Char}
    (h : g.quantify? q text = some g') :
    ∃ part parts, g.parts = part :: parts ∧ part.node.isRepeatable = true ∧
      g' = { g with parts := part.repeated q text :: parts } := by
  rw [quantify?] at h
  split at h
  · cases h
  · rename_i part parts hparts
    obtain ⟨hrepeatable, hg'⟩ := Option.ite_none_right_eq_some.1 h
    exact ⟨part, parts, hparts, hrepeatable, (Option.some.inj hg').symm⟩

theorem count_quantify? {g g' : OpenGroup} {q : Quantifier} {text : List Char}
    (h : g.quantify? q text = some g') :
    g'.count k = g.count k + (Token.quantifier q).constructs.count k := by
  obtain ⟨part, parts, hparts, -, rfl⟩ := eq_of_quantify? h
  have hrepeated : (part.repeated q text).constructs =
      (Token.quantifier q).constructs ++ part.constructs := Node.constructs_repetition q _ part.node
  rw [count, count, hparts, List.flatMap_cons, List.flatMap_cons, hrepeated,
    List.count_append, List.count_append, List.count_append]
  dsimp only
  omega

theorem kind_quantify? {g g' : OpenGroup} {q : Quantifier} {text : List Char}
    (h : g.quantify? q text = some g') : g'.kind = g.kind := by
  obtain ⟨part, parts, -, -, rfl⟩ := eq_of_quantify? h
  rfl

end OpenGroup

/-- How many constructs of a kind there are in a group and in those around it, which are open as
well. -/
def pending : List OpenGroup → OpenGroup → Nat
  | [], g => g.count k
  | outer :: stack, g => pending stack outer + g.kind.constructs.count k + g.count k

/-- A group with more in it, and the groups around it as they were. -/
theorem pending_of_count {g g' : OpenGroup} {n : Nat} (h : g'.count k = g.count k + n)
    (hkind : g'.kind = g.kind) (stack : List OpenGroup) :
    pending k stack g' = pending k stack g + n := by
  cases stack with
  | nil => exact h
  | cons outer stack =>
    rw [pending, pending, hkind, h]
    omega

/-! ## The pass over the tokens -/

theorem count_constructs_ofLexemesFrom? {stack : List OpenGroup} {g : OpenGroup}
    {ls : List Lexeme} {node : Node} (h : Node.ofLexemesFrom? stack g ls = some node) :
    node.constructs.count k = pending k stack g + (ls.flatMap Lexeme.constructs).count k := by
  fun_induction Node.ofLexemesFrom? stack g ls with
  | case1 stack g hstack =>
    obtain rfl := List.isEmpty_iff.1 hstack
    cases h
    exact g.count_body k
  | case2 => cases h
  | case3 stack g a text ls ih =>
    have hpush := g.count_push k ⟨.atom a, text⟩
    rw [Part.constructs, Node.constructs_atom] at hpush
    rw [ih h, pending_of_count k hpush rfl, List.flatMap_cons, List.count_append, Nat.add_assoc]
    rfl
  | case4 stack g a text ls ih =>
    rw [ih h, pending_of_count k (g.count_push k ⟨.anchor a, text⟩) rfl, List.flatMap_cons,
      List.count_append, Nat.add_assoc]
    rfl
  | case5 stack g text ls ih =>
    rw [ih h, pending_of_count k (g.count_nextAlternative k) rfl, List.flatMap_cons,
      List.count_append, Nat.add_assoc]
    rfl
  | case6 stack g kind text ls ih =>
    rw [ih h, pending, OpenGroup.count_ofKind, List.flatMap_cons, List.count_append,
      Nat.add_zero, Nat.add_assoc]
    rfl
  | case7 => cases h
  | case8 g text ls outer stack ih =>
    have hpush := outer.count_push k (g.close text)
    have hclose : (g.close text).constructs = g.kind.constructs ++ g.body.constructs :=
      Node.constructs_group g.kind g.body.node
    rw [hclose, List.count_append, g.count_body k] at hpush
    rw [ih h, pending_of_count k hpush rfl, pending, List.flatMap_cons, Lexeme.constructs,
      Token.constructs, List.nil_append]
    omega
  | case9 => cases h
  | case10 stack g q text ls g' hquantify ih =>
    rw [ih h, pending_of_count k (OpenGroup.count_quantify? k hquantify)
        (OpenGroup.kind_quantify? hquantify),
      List.flatMap_cons, List.count_append, Nat.add_assoc]
    rfl

/-- **A tree has the constructs of its tokens**, each as often as there are tokens for it. -/
theorem count_constructs_ofLexemes? {ls : List Lexeme} {node : Node}
    (h : Node.ofLexemes? ls = some node) :
    node.constructs.count k = (ls.flatMap Lexeme.constructs).count k := by
  rw [count_constructs_ofLexemesFrom? k h, pending, OpenGroup.count_ofKind, Nat.zero_add]

theorem perm_constructs_ofLexemes? {ls : List Lexeme} {node : Node}
    (h : Node.ofLexemes? ls = some node) :
    node.constructs.Perm (ls.flatMap Lexeme.constructs) :=
  List.perm_iff_count.2 fun k => count_constructs_ofLexemes? k h

end ContentBlocker.Regex
