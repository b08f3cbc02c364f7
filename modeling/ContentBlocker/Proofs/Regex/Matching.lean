import ContentBlocker.Regex.Tree
import ContentBlocker.Text.Blank

/-!
# What a regular expression matches

A URL is a sequence of 16-bit units, and an expression matches a part of it or not, given the units
before and behind that part (`Node.Matches`).  A search looks for a part anywhere that is matched
(`Finds`).  Letter case counts, and the two anchors are the ends of the URL.

Back-references are left out of this: what such a reference stands for depends on how the parts
before it have been matched, and the url-filter language has none.
-/

set_option autoImplicit false
namespace ContentBlocker.Regex

/-! ## Units -/

/-- Whether a unit ends a line. -/
def isLineUnit (unit : Nat) : Bool :=
  unit == 0x0a || unit == 0x0d || unit == 0x2028 || unit == 0x2029

/-- Whether a unit is a digit. -/
def isDigitUnit (unit : Nat) : Bool :=
  0x30 ≤ unit && unit ≤ 0x39

/-- Whether a unit belongs to a word: a letter of ASCII, a digit, or an underscore. -/
def isWordUnit (unit : Nat) : Bool :=
  isDigitUnit unit || (0x41 ≤ unit && unit ≤ 0x5a) || (0x61 ≤ unit && unit ≤ 0x7a) || unit == 0x5f

namespace NamedClass

/-- Whether a unit is in a class. -/
def contains (c : NamedClass) (unit : Nat) : Bool :=
  c.negated != match c.kind with
    | .digit => isDigitUnit unit
    | .word => isWordUnit unit
    | .space => Text.isBlank (Char.ofNat unit)

end NamedClass

namespace SetItem

/-- Whether a unit is one of those that an item of a set stands for. -/
def contains (item : SetItem) (unit : Nat) : Bool :=
  match item with
  | .char code => unit == code
  | .range first last => first ≤ unit && unit ≤ last
  | .named c => c.contains unit
  | .reference _ => false

end SetItem

namespace Atom

/-- Whether an atom matches a unit.  A full stop does not match the end of a line. -/
def contains (a : Atom) (unit : Nat) : Bool :=
  match a with
  | .char code => unit == code
  | .any => !isLineUnit unit
  | .named c => c.contains unit
  | .set negated items => negated != items.any (·.contains unit)
  | .reference _ => false

end Atom

/-! ## Parts of a text -/

namespace Anchor

/-- Whether a place between two texts is one that an anchor stands for. -/
def Holds (a : Anchor) (before after : List Nat) : Prop :=
  let isBorder := before.getLast?.any isWordUnit ≠ after.head?.any isWordUnit
  match a with
  | .start => before = []
  | .stop => after = []
  | .boundary => isBorder
  | .notBoundary => ¬ isBorder

end Anchor

namespace Quantifier

/-- Whether a quantifier allows for so many repetitions. -/
def Allows (q : Quantifier) (n : Nat) : Prop :=
  q.least ≤ n ∧ ∀ most ∈ q.most, n ≤ most

end Quantifier

/-- A part is made of so many parts in a row, each of which is matched between what stands before
it and behind it. -/
def Repeated (matched : List Nat → List Nat → List Nat → Prop) :
    Nat → List Nat → List Nat → List Nat → Prop
  | 0, _, part, _ => part = []
  | n + 1, before, part, after => ∃ first rest, part = first ++ rest ∧
      matched before first (rest ++ after) ∧ Repeated matched n (before ++ first) rest after

/-- Whether an expression matches a part of a text, between what stands before and behind it. -/
def Node.Matches : Node → List Nat → List Nat → List Nat → Prop
  | .empty, _, part, _ => part = []
  | .atom a, _, part, _ => ∃ unit, part = [unit] ∧ a.contains unit = true
  | .anchor a, before, part, after => part = [] ∧ a.Holds before after
  | .group .plain body, before, part, after => body.Matches before part after
  | .group (.capture _) body, before, part, after => body.Matches before part after
  | .group (.lookahead negated) body, before, part, after => part = [] ∧
      ((∃ ahead rest, after = ahead ++ rest ∧ body.Matches before ahead rest) ↔ negated = false)
  | .group (.lookbehind negated) body, before, part, after => part = [] ∧
      ((∃ rest behind, before = rest ++ behind ∧ body.Matches rest behind after) ↔ negated = false)
  | .repetition q _ body, before, part, after =>
      ∃ n, q.Allows n ∧ Repeated body.Matches n before part after
  | .seq first rest, before, part, after => ∃ p q, part = p ++ q ∧
      first.Matches before p (q ++ after) ∧ rest.Matches (before ++ p) q after
  | .alt first rest, before, part, after =>
      first.Matches before part after ∨ rest.Matches before part after

/-- Whether a search in a text finds a part that an expression matches. -/
def Node.Finds (node : Node) (text : List Nat) : Prop :=
  ∃ before part after, text = before ++ part ++ after ∧ node.Matches before part after

/-- Whether a search in a text finds what a regular expression stands for. -/
def Finds (source : String) (text : List Nat) : Prop :=
  ∃ node, parse? source.toList = some node ∧ node.Finds text

/-! ## Repetitions of one unit -/

theorem repeated_atom_iff {a : Atom} {n : Nat} {before part after : List Nat} :
    Repeated (Node.atom a).Matches n before part after ↔
      part.length = n ∧ ∀ unit ∈ part, a.contains unit = true := by
  induction n generalizing before part with
  | zero =>
    rw [Repeated, List.length_eq_zero_iff]
    refine ⟨fun h => ⟨h, fun unit hunit => ?_⟩, And.left⟩
    rw [h] at hunit
    exact absurd hunit List.not_mem_nil
  | succ n ih =>
    rw [Repeated]
    constructor
    · rintro ⟨first, rest, rfl, ⟨unit, rfl, hunit⟩, hrest⟩
      obtain ⟨hlength, hall⟩ := ih.1 hrest
      refine ⟨by simpa using hlength, fun unit' hmem => ?_⟩
      rcases List.mem_cons.1 hmem with rfl | hmem
      · exact hunit
      · exact hall unit' hmem
    · rintro ⟨hlength, hall⟩
      cases part with
      | nil => cases hlength
      | cons unit rest =>
        refine ⟨[unit], rest, rfl, ⟨unit, rfl, hall unit List.mem_cons_self⟩, ih.2 ⟨?_, ?_⟩⟩
        · exact Nat.succ.inj hlength
        · exact fun unit' hmem => hall unit' (List.mem_cons_of_mem unit hmem)

/-- An unbounded repetition of one unit is a text of such units. -/
theorem matches_repetition_atom_iff {least : Nat} {reluctant braced : Bool} {text : List Char}
    {a : Atom} {before part after : List Nat} :
    (Node.repetition ⟨least, none, reluctant, braced⟩ text (.atom a)).Matches before part after ↔
      least ≤ part.length ∧ ∀ unit ∈ part, a.contains unit = true := by
  constructor
  · rintro ⟨n, ⟨hleast, -⟩, hrepeated⟩
    obtain ⟨rfl, hall⟩ := repeated_atom_iff.1 hrepeated
    exact ⟨hleast, hall⟩
  · rintro ⟨hleast, hall⟩
    exact ⟨part.length, ⟨hleast, fun _ h => nomatch h⟩, repeated_atom_iff.2 ⟨rfl, hall⟩⟩

/-- What may be left out is there once or not at all. -/
theorem matches_optional_iff {reluctant braced : Bool} {text : List Char} {body : Node}
    {before part after : List Nat} :
    (Node.repetition ⟨0, some 1, reluctant, braced⟩ text body).Matches before part after ↔
      part = [] ∨ body.Matches before part after := by
  constructor
  · rintro ⟨n, ⟨-, hmost⟩, hrepeated⟩
    obtain rfl | rfl : n = 0 ∨ n = 1 := by
      have := hmost 1 rfl
      omega
    · exact .inl hrepeated
    · obtain ⟨first, rest, rfl, hfirst, rfl⟩ := hrepeated
      rw [List.append_nil]
      exact .inr hfirst
  · rintro (rfl | hbody)
    · exact ⟨0, ⟨Nat.zero_le 0, fun _ _ => Nat.zero_le _⟩, rfl⟩
    · refine ⟨1, ⟨Nat.zero_le 1, fun most hmost => ?_⟩, part, [], ?_, hbody, rfl⟩
      · exact Nat.le_of_eq (Option.some.inj hmost)
      · rw [List.append_nil]

end ContentBlocker.Regex
