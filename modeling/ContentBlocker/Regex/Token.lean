import ContentBlocker.Regex.CharSet

/-!
# Tokens of a regular expression

An expression is cut into tokens from the left: atoms, anchors, the brackets of groups, the bar
between alternatives, and quantifiers.  A set between square brackets is one token, and so is an
escape.  How a number after a backslash is cut depends on how many groups the expression has, which
is the first argument throughout.

A brace is a quantifier where it has the form of one, `{n}`, `{n,}` or `{n,m}`, and a character
everywhere else.

What a token means does not always tell how it was written, so each is kept with its characters
(`Lexeme`).
-/

set_option autoImplicit false
namespace ContentBlocker.Regex

open Text (digitsValue? isDigit)

/-- A token of a regular expression. -/
inductive Token where
  | atom (a : Atom)
  | anchor (a : Anchor)
  | opening (kind : GroupKind)
  | closing
  | bar
  | quantifier (q : Quantifier)
  deriving DecidableEq

/-- A token and the characters that it is written with. -/
structure Lexeme where
  token : Token
  text : List Char
  deriving DecidableEq

/-! ## Quantifiers -/

/-- Reads the bounds of a quantifier from behind its opening brace to its closing one. -/
def readBounds (s : List Char) : Option ((Nat × Option Nat) × List Char) :=
  match digitsValue? 10 (s.takeWhile (isDigit 10)), s.dropWhile (isDigit 10) with
  | some least, '\x7d' :: rest => some ((least, some least), rest)
  | some least, ',' :: '\x7d' :: rest => some ((least, none), rest)
  | some least, ',' :: s' =>
    match digitsValue? 10 (s'.takeWhile (isDigit 10)), s'.dropWhile (isDigit 10) with
    | some most, '\x7d' :: rest => some ((least, some most), rest)
    | _, _ => none
  | _, _ => none

theorem length_readBounds {s rest : List Char} {bounds : Nat × Option Nat}
    (h : readBounds s = some (bounds, rest)) : rest.length < s.length := by
  have hdrop := (List.dropWhile_suffix (l := s) (isDigit 10)).length_le
  unfold readBounds at h
  split at h
  · rename_i hs
    cases h
    rw [hs, List.length_cons] at hdrop
    omega
  · rename_i hs
    cases h
    rw [hs, List.length_cons, List.length_cons] at hdrop
    omega
  · rename_i s' _ _ hs
    have hdrop' := (List.dropWhile_suffix (l := s') (isDigit 10)).length_le
    rw [hs, List.length_cons] at hdrop
    split at h
    · rename_i hs'
      cases h
      rw [hs', List.length_cons] at hdrop'
      omega
    · cases h
  · cases h

/-- The greatest bound that can be told apart from its neighbours. -/
def greatestBound : Nat :=
  Nat.pow 2 53 - 1

/-- Whether bounds are small enough and in order. -/
def boundsAreValid (least : Nat) : Option Nat → Bool
  | none => least ≤ greatestBound
  | some most => least ≤ most && most ≤ greatestBound

/-- A quantifier with the mark behind it, if there is one, that makes it take as little as it
can. -/
def quantifierToken (least : Nat) (most : Option Nat) (braced : Bool) : List Char →
    Token × List Char
  | '?' :: rest => (.quantifier ⟨least, most, true, braced⟩, rest)
  | rest => (.quantifier ⟨least, most, false, braced⟩, rest)

theorem length_quantifierToken (least : Nat) (most : Option Nat) (braced : Bool)
    (s : List Char) : (quantifierToken least most braced s).2.length ≤ s.length := by
  unfold quantifierToken
  split <;> simp

/-- Reads from behind an opening brace: a quantifier, or the brace as a character. -/
def readBrace (s : List Char) : Option (Token × List Char) :=
  match readBounds s with
  | none => some (.atom (.char 0x7b), s)
  | some ((least, most), rest) =>
    if boundsAreValid least most then some (quantifierToken least most true rest) else none

theorem length_readBrace {s rest : List Char} {t : Token}
    (h : readBrace s = some (t, rest)) : rest.length ≤ s.length := by
  unfold readBrace at h
  split at h
  · cases h; simp
  · rename_i least most left hbounds
    have := length_readBounds hbounds
    split at h
    · have hle := length_quantifierToken least most true left
      rw [Option.some.inj h] at hle
      simp only at hle
      omega
    · cases h

/-! ## Groups -/

/-- Reads from behind an opening parenthesis what its group is for. -/
def readGroupKind : List Char → Option (GroupKind × List Char)
  | '?' :: ':' :: rest => some (.plain, rest)
  | '?' :: '=' :: rest => some (.lookahead false, rest)
  | '?' :: '!' :: rest => some (.lookahead true, rest)
  | '?' :: '<' :: '=' :: rest => some (.lookbehind false, rest)
  | '?' :: '<' :: '!' :: rest => some (.lookbehind true, rest)
  | '?' :: '<' :: rest => (readName rest).map fun (name, rest) => (.capture (some name), rest)
  | rest => some (.capture none, rest)

theorem length_readGroupKind {s rest : List Char} {kind : GroupKind}
    (h : readGroupKind s = some (kind, rest)) : rest.length ≤ s.length := by
  unfold readGroupKind at h
  split at h
  iterate 5 (cases h; simp only [List.length_cons]; omega)
  · obtain ⟨⟨_, _⟩, hp, hq⟩ := Option.map_eq_some_iff.1 h
    have := length_readName hp
    cases hq
    simp only [List.length_cons]
    omega
  · cases h; simp

/-! ## All tokens -/

/-- Reads an escape outside of sets from behind its backslash. -/
def readEscapeToken (groups : Nat) : List Char → Option (Token × List Char)
  | 'b' :: rest => some (.anchor .boundary, rest)
  | 'B' :: rest => some (.anchor .notBoundary, rest)
  | s => (readEscape groups s).map fun (a, rest) => (.atom a, rest)

theorem length_readEscapeToken {groups : Nat} {s rest : List Char} {t : Token}
    (h : readEscapeToken groups s = some (t, rest)) : rest.length ≤ s.length := by
  unfold readEscapeToken at h
  split at h
  · cases h; simp
  · cases h; simp
  · obtain ⟨⟨_, _⟩, hp, hq⟩ := Option.map_eq_some_iff.1 h
    cases hq
    exact length_readEscape hp

/-- Reads the token that starts with `c`, in an expression with so many groups. -/
def readToken (groups : Nat) (c : Char) (rest : List Char) : Option (Token × List Char) :=
  match c with
  | '|' => some (.bar, rest)
  | '(' => (readGroupKind rest).map fun (kind, rest) => (.opening kind, rest)
  | ')' => some (.closing, rest)
  | '^' => some (.anchor .start, rest)
  | '$' => some (.anchor .stop, rest)
  | '.' => some (.atom .any, rest)
  | '*' => some (quantifierToken 0 none false rest)
  | '+' => some (quantifierToken 1 none false rest)
  | '?' => some (quantifierToken 0 (some 1) false rest)
  | '\x7b' => readBrace rest
  | '[' => (readSet rest).map fun (a, rest) => (.atom a, rest)
  | '\\' => readEscapeToken groups rest
  | c => some (.atom (.char c.toNat), rest)

theorem length_readToken {groups : Nat} {c : Char} {s rest : List Char} {t : Token}
    (h : readToken groups c s = some (t, rest)) : rest.length ≤ s.length := by
  unfold readToken at h
  split at h
  case h_2 =>
    obtain ⟨⟨_, _⟩, hp, hq⟩ := Option.map_eq_some_iff.1 h
    cases hq
    exact length_readGroupKind hp
  case h_7 =>
    have hle := length_quantifierToken 0 none false s
    rwa [Option.some.inj h] at hle
  case h_8 =>
    have hle := length_quantifierToken 1 none false s
    rwa [Option.some.inj h] at hle
  case h_9 =>
    have hle := length_quantifierToken 0 (some 1) false s
    rwa [Option.some.inj h] at hle
  case h_10 => exact length_readBrace h
  case h_11 =>
    obtain ⟨⟨_, _⟩, hp, hq⟩ := Option.map_eq_some_iff.1 h
    cases hq
    exact length_readSet hp
  case h_12 => exact length_readEscapeToken h
  all_goals
    cases h
    exact Nat.le_refl _

/-- The text in front of the end of a text. -/
def textBefore (left s : List Char) : List Char :=
  s.take (s.length - left.length)

/-- The tokens of an expression with so many groups, unless one of them is not well formed. -/
def lexemes (groups : Nat) (s : List Char) : Option (List Lexeme) :=
  match s with
  | [] => some []
  | c :: rest =>
    match _h : readToken groups c rest with
    | none => none
    | some (t, left) => (lexemes groups left).map (⟨t, textBefore left (c :: rest)⟩ :: ·)
termination_by s.length
decreasing_by exact Nat.lt_succ_of_le (length_readToken _h)

/-- How many groups that can be referred to are opened. -/
def captureCount (ls : List Lexeme) : Nat :=
  ls.countP fun l => match l.token with
    | .opening (.capture _) => true
    | _ => false

end ContentBlocker.Regex
