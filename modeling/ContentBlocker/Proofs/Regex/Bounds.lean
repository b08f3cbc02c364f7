import ContentBlocker.Regex.Syntax

/-!
# How a quantifier is written

A quantifier is a sign or a pair of braces, and there may be a question mark behind it
(`QuantifierText`).  Which of the two it was can be seen at the end of the text of a repetition
(`QuantifierText.endsInBounds_append`), if the part that is repeated does not itself end in braces:
with a question mark as the quantifier those would be taken for the quantifier, and the question
mark for the one behind it.

`endsInBounds_iff` says which texts end in braces, without the search from the end.
-/

set_option autoImplicit false
namespace ContentBlocker.Regex

/-! ## Braces -/

/-- What may stand between the braces of a quantifier. -/
inductive BoundsText : List Char → Prop
  | digits {s : List Char} : (∀ c ∈ s, c.isDigit = true) → BoundsText s
  | comma {least most : List Char} : (∀ c ∈ least, c.isDigit = true) →
      (∀ c ∈ most, c.isDigit = true) → BoundsText (least ++ ',' :: most)

theorem BoundsText.reverse {s : List Char} (h : BoundsText s) : BoundsText s.reverse := by
  cases h with
  | digits hs => exact .digits fun c hc => hs c (List.mem_reverse.1 hc)
  | comma hleast hmost =>
    rw [List.reverse_append, List.reverse_cons, List.append_assoc, List.singleton_append]
    exact .comma (fun c hc => hmost c (List.mem_reverse.1 hc))
      fun c hc => hleast c (List.mem_reverse.1 hc)

/-- Digits are passed over up to a character that is none. -/
private theorem dropWhile_isDigit {s : List Char} (h : ∀ c ∈ s, c.isDigit = true) {d : Char}
    (hd : d.isDigit = false) (rest : List Char) :
    (s ++ d :: rest).dropWhile Char.isDigit = d :: rest := by
  rw [List.dropWhile_append_of_pos h, List.dropWhile_cons_of_neg]
  rw [hd]
  exact Bool.false_ne_true

theorem startsWithBraces_iff {text : List Char} :
    startsWithBraces text = true ↔
      ∃ bounds before, text = '\x7d' :: (bounds ++ '\x7b' :: before) ∧ BoundsText bounds := by
  have hdigits (s : List Char) : ∀ c ∈ s.takeWhile Char.isDigit, c.isDigit = true :=
    List.all_eq_true.1 List.all_takeWhile
  constructor
  · intro h
    unfold startsWithBraces at h
    split at h
    · rename_i s
      have hs := List.takeWhile_append_dropWhile (p := Char.isDigit) (l := s)
      split at h
      · rename_i t ht
        obtain ⟨before, hbefore⟩ := List.head?_eq_some_iff.1 (beq_iff_eq.1 h)
        have hsplit := List.takeWhile_append_dropWhile (p := Char.isDigit) (l := t)
        refine ⟨s.takeWhile Char.isDigit ++ ',' :: t.takeWhile Char.isDigit, before, ?_,
          .comma (hdigits s) (hdigits t)⟩
        rw [List.append_assoc, List.cons_append, ← hbefore, hsplit, ← ht, hs]
      · obtain ⟨before, hbefore⟩ := List.head?_eq_some_iff.1 (beq_iff_eq.1 h)
        refine ⟨s.takeWhile Char.isDigit, before, ?_, .digits (hdigits s)⟩
        rw [← hbefore, hs]
    · cases h
  · rintro ⟨bounds, before, rfl, hbounds⟩
    rw [startsWithBraces]
    cases hbounds with
    | digits hs => rw [dropWhile_isDigit hs rfl]; rfl
    | comma hleast hmost =>
      rw [List.append_assoc, List.cons_append, dropWhile_isDigit hleast rfl]
      show ((_ : List Char).dropWhile Char.isDigit).head? == some '\x7b'
      rw [dropWhile_isDigit hmost rfl]
      rfl

theorem startsWithBraces_reverse_iff {text : List Char} :
    startsWithBraces text.reverse = true ↔
      ∃ before bounds, text = before ++ '\x7b' :: (bounds ++ ['\x7d']) ∧ BoundsText bounds := by
  rw [startsWithBraces_iff]
  constructor
  · rintro ⟨bounds, before, htext, hbounds⟩
    refine ⟨before.reverse, bounds.reverse, ?_, hbounds.reverse⟩
    rw [← text.reverse_reverse, htext]
    simp
  · rintro ⟨before, bounds, rfl, hbounds⟩
    exact ⟨bounds.reverse, before.reverse, by simp, hbounds.reverse⟩

/-! ## The end of a text -/

/-- What may stand behind a quantifier, to make it take as little as it can. -/
def IsMark (s : List Char) : Prop :=
  s = [] ∨ s = ['?']

theorem endsInBounds_append_mark (text : List Char) :
    endsInBounds (text ++ ['?']) = startsWithBraces text.reverse := by
  rw [endsInBounds, List.reverse_append]
  rfl

theorem endsInBounds_append_of_ne {c : Char} (h : c ≠ '?') (text : List Char) :
    endsInBounds (text ++ [c]) = startsWithBraces (text ++ [c]).reverse := by
  rw [endsInBounds]
  split
  · rename_i heq
    rw [List.reverse_append] at heq
    exact absurd (List.cons.inj heq).1 h
  · rfl

/-- **A text ends in braces** where there is a brace, digits with at most one comma, a brace, and
nothing behind it but a mark. -/
theorem endsInBounds_iff {text : List Char} :
    endsInBounds text = true ↔ ∃ before bounds mark,
      text = before ++ '\x7b' :: (bounds ++ '\x7d' :: mark) ∧ BoundsText bounds ∧ IsMark mark := by
  constructor
  · intro h
    obtain rfl | ⟨s, c, rfl⟩ := text.eq_nil_or_concat
    · cases h
    · rw [List.concat_eq_append] at h ⊢
      by_cases hc : c = '?'
      · subst hc
        rw [endsInBounds_append_mark, startsWithBraces_reverse_iff] at h
        obtain ⟨before, bounds, rfl, hbounds⟩ := h
        exact ⟨before, bounds, ['?'], by simp, hbounds, .inr rfl⟩
      · rw [endsInBounds_append_of_ne hc, startsWithBraces_reverse_iff] at h
        obtain ⟨before, bounds, heq, hbounds⟩ := h
        exact ⟨before, bounds, [], heq, hbounds, .inl rfl⟩
  · rintro ⟨before, bounds, mark, rfl, hbounds, rfl | rfl⟩
    · have hsplit : before ++ '\x7b' :: (bounds ++ ['\x7d']) =
          (before ++ '\x7b' :: bounds) ++ ['\x7d'] := by simp
      rw [hsplit, endsInBounds_append_of_ne (by decide), ← hsplit, startsWithBraces_reverse_iff]
      exact ⟨before, bounds, rfl, hbounds⟩
    · have hsplit : before ++ '\x7b' :: (bounds ++ ['\x7d', '?']) =
          (before ++ '\x7b' :: (bounds ++ ['\x7d'])) ++ ['?'] := by simp
      rw [hsplit, endsInBounds_append_mark, startsWithBraces_reverse_iff]
      exact ⟨before, bounds, rfl, hbounds⟩

/-! ## Quantifiers -/

/-- How a quantifier is written: with braces, or with one of the three signs. -/
inductive QuantifierText : Bool → List Char → Prop
  | braces {bounds mark : List Char} :
      BoundsText bounds → IsMark mark → QuantifierText true ('\x7b' :: (bounds ++ '\x7d' :: mark))
  | sign {c : Char} {mark : List Char} :
      c ∈ ['*', '+', '?'] → IsMark mark → QuantifierText false (c :: mark)

/-- Whether a text does not end in braces: if it ends in a closing one, there is no opening one. -/
def EndsUnbraced (text : List Char) : Prop :=
  text.getLast? = some '\x7d' → '\x7b' ∉ text

theorem EndsUnbraced.of_getLast?_eq {text : List Char} {c : Char} (h : text.getLast? = some c)
    (hc : c ≠ '\x7d') : EndsUnbraced text :=
  fun hlast => absurd (Option.some.inj (h.symm.trans hlast)) hc

theorem EndsUnbraced.startsWithBraces_eq {text : List Char} (h : EndsUnbraced text) :
    startsWithBraces text.reverse = false := by
  refine Bool.eq_false_iff.2 fun hbraces => ?_
  obtain ⟨before, bounds, rfl, -⟩ := startsWithBraces_reverse_iff.1 hbraces
  exact h (by simp [List.getLast?_append, List.getLast?_cons]) (by simp)

/-- **The end of a repetition tells how its quantifier was written**, unless what is repeated ends
in braces. -/
theorem QuantifierText.endsInBounds_append {braced : Bool} {text : List Char}
    (h : QuantifierText braced text) {part : List Char} (hpart : EndsUnbraced part) :
    endsInBounds (part ++ text) = braced := by
  cases h with
  | braces hbounds hmark => exact endsInBounds_iff.2 ⟨part, _, _, rfl, hbounds, hmark⟩
  | @sign c mark hc hmark =>
    have hne : c ≠ '\x7d' := by
      rintro rfl
      exact absurd hc (by decide)
    obtain rfl | rfl := hmark
    · by_cases hquestion : c = '?'
      · subst hquestion
        rw [endsInBounds_append_mark, hpart.startsWithBraces_eq]
      · rw [endsInBounds_append_of_ne hquestion]
        exact (EndsUnbraced.of_getLast?_eq (by simp) hne).startsWithBraces_eq
    · rw [show part ++ [c, '?'] = part ++ [c] ++ ['?'] by simp, endsInBounds_append_mark]
      exact (EndsUnbraced.of_getLast?_eq (by simp) hne).startsWithBraces_eq

end ContentBlocker.Regex
