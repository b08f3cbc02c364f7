import Mathlib.Order.Nat
import ContentBlocker.Proofs.Rule.RegexBody

/-!
# The slash that closes a regular expression

In a rule that begins with a slash the modifiers stand behind a second slash and a dollar sign.
`IsClosingSlash` is said of the places of slashes where that can be: a dollar sign is next, and the
slash is not escaped, so the number of backslashes right before it is even.  The slash that the rule
begins with escapes nothing and is not counted.

The scan for the separator takes a backslash and the character behind it together and never counts
backslashes.  Still it stops at the first closing slash, and finds nothing if there is none
(`separator_behind_first_closing_slash`).  What connects the two is the text that the scan has passed
over: it is a regular expression (`IsRegexBody`) exactly if the slash behind it is the first that
closes one (`isRegexBody_iff_isLeast`).
-/

set_option autoImplicit false
namespace ContentBlocker

/-- A slash with a dollar sign behind it and an even number of backslashes before it. -/
structure IsClosingSlash (body : List Char) (i : Nat) : Prop where
  pos : 1 ≤ i
  slash : body[i]? = some '/'
  dollar : body[i + 1]? = some '$'
  even : backslashesAtEnd ((body.take i).drop 1) % 2 = 0

instance (body : List Char) (i : Nat) : Decidable (IsClosingSlash body i) :=
  decidable_of_iff (1 ≤ i ∧ body[i]? = some '/' ∧ body[i + 1]? = some '$' ∧
      backslashesAtEnd ((body.take i).drop 1) % 2 = 0)
    ⟨fun ⟨hpos, hslash, hdollar, heven⟩ => ⟨hpos, hslash, hdollar, heven⟩,
      fun h => ⟨h.pos, h.slash, h.dollar, h.even⟩⟩

theorem endsInEscape_eq_false_iff {s : List Char} :
    endsInEscape s = false ↔ backslashesAtEnd s % 2 = 0 := by
  rw [endsInEscape, beq_eq_false_iff_ne]
  omega

/-- A closing slash cuts what stands behind the first slash in two. -/
theorem isClosingSlash_iff {rest : List Char} {i : Nat} :
    IsClosingSlash ('/' :: rest) i ↔ ∃ before after, rest = before ++ '/' :: '$' :: after ∧
      i = before.length + 1 ∧ endsInEscape before = false := by
  constructor
  · rintro ⟨hpos, hslash, hdollar, heven⟩
    obtain ⟨n, rfl⟩ := Nat.exists_eq_add_of_le' hpos
    rw [List.getElem?_cons_succ] at hslash hdollar
    rw [List.take_succ_cons, List.drop_one, List.tail_cons] at heven
    obtain ⟨hlt, hslash⟩ := List.getElem?_eq_some_iff.1 hslash
    obtain ⟨hlt', hdollar⟩ := List.getElem?_eq_some_iff.1 hdollar
    refine ⟨rest.take n, rest.drop (n + 2), ?_, ?_, endsInEscape_eq_false_iff.2 heven⟩
    · rw [← hslash, ← hdollar, ← List.drop_eq_getElem_cons, ← List.drop_eq_getElem_cons,
        List.take_append_drop]
    · rw [List.length_take, Nat.min_eq_left (Nat.le_of_lt hlt)]
  · rintro ⟨before, after, rfl, rfl, hescape⟩
    refine ⟨Nat.le_add_left 1 _, ?_, ?_, ?_⟩
    · simp
    · simp
    · rw [List.take_succ_cons, List.drop_one, List.tail_cons, List.take_left]
      exact endsInEscape_eq_false_iff.1 hescape

/-- Of two places where a slash and a dollar sign stand, the first is wholly before the second. -/
theorem exists_between_of_length_lt {before after before' after' : List Char}
    (h : before ++ '/' :: '$' :: after = before' ++ '/' :: '$' :: after')
    (hlt : before'.length < before.length) :
    ∃ between, before = before' ++ '/' :: '$' :: between := by
  rcases List.append_eq_append_iff.1 h with ⟨between, hbefore, -⟩ | ⟨between, hbefore, hafter⟩
  · rw [hbefore, List.length_append] at hlt
    omega
  · rcases between with _ | ⟨c, _ | ⟨d, between⟩⟩
    · rw [hbefore, List.append_nil] at hlt
      exact absurd hlt (Nat.lt_irrefl _)
    · -- the dollar sign would be the slash of the other place
      cases hafter
    · rw [hbefore]
      obtain ⟨rfl, htail⟩ := List.cons.inj hafter
      obtain ⟨rfl, -⟩ := List.cons.inj htail
      exact ⟨between, rfl⟩

/-- **A text is a regular expression if the slash behind it is the first that closes one.** -/
theorem isRegexBody_iff_isLeast {before after : List Char} :
    IsRegexBody before ↔
      IsLeast {i | IsClosingSlash ('/' :: (before ++ '/' :: '$' :: after)) i}
        (before.length + 1) := by
  constructor
  · rintro ⟨hclosed, hescaped⟩
    refine ⟨isClosingSlash_iff.2 ⟨before, after, rfl, rfl, hclosed⟩, fun i hi => ?_⟩
    obtain ⟨before', after', hbody, rfl, hopen⟩ := isClosingSlash_iff.1 hi
    by_contra hlt
    obtain ⟨between, hbefore⟩ := exists_between_of_length_lt hbody (by omega)
    rw [hescaped before' between hbefore] at hopen
    cases hopen
  · rintro ⟨hmem, hleast⟩
    obtain ⟨before', after', hbody, hlength, hclosed⟩ := isClosingSlash_iff.1 hmem
    obtain ⟨rfl, -⟩ := List.append_inj hbody (Nat.succ.inj hlength)
    refine ⟨hclosed, fun start between hbefore => ?_⟩
    by_contra hopen
    have hstart : IsClosingSlash ('/' :: (before ++ '/' :: '$' :: after)) (start.length + 1) := by
      refine isClosingSlash_iff.2
        ⟨start, between ++ '/' :: '$' :: after, ?_, rfl, Bool.eq_false_iff.2 hopen⟩
      rw [hbefore, List.append_assoc, List.cons_append, List.cons_append]
    have hle := hleast hstart
    rw [hbefore, List.length_append] at hle
    simp only [List.length_cons] at hle
    omega

/-- What the scan finds is the place behind the first closing slash. -/
theorem separatorAfterSlash?_eq_some_iff {rest : List Char} {place : Nat} :
    separatorAfterSlash? 1 rest = some place ↔
      ∃ i, IsLeast {i | IsClosingSlash ('/' :: rest) i} i ∧ place = i + 1 := by
  constructor
  · intro h
    obtain ⟨before, after, hbefore, rfl, rfl⟩ := exists_regexBody_of_separator h
    exact ⟨before.length + 1, isRegexBody_iff_isLeast.1 hbefore, by omega⟩
  · rintro ⟨i, hleast, rfl⟩
    obtain ⟨before, after, rfl, rfl, -⟩ := isClosingSlash_iff.1 hleast.1
    rw [(isRegexBody_iff_isLeast.2 hleast).separatorAfterSlash?_dollar, Nat.add_comm 1]

/-- **The separator of a rule that begins with a slash stands right behind the first closing slash**,
and there is none exactly if no slash closes. -/
theorem separator_behind_first_closing_slash {body : List Char} (h : body.head? = some '/') :
    (∀ place, modifierSeparator? body = some place ↔
      ∃ i, IsLeast {i | IsClosingSlash body i} i ∧ place = i + 1) ∧
    (modifierSeparator? body = none ↔ ∀ i, ¬ IsClosingSlash body i) := by
  obtain ⟨rest, rfl⟩ := List.head?_eq_some_iff.1 h
  have hsome (place : Nat) : modifierSeparator? ('/' :: rest) = some place ↔
      ∃ i, IsLeast {i | IsClosingSlash ('/' :: rest) i} i ∧ place = i + 1 :=
    separatorAfterSlash?_eq_some_iff
  refine ⟨hsome, fun hnone i hi => ?_, fun hopen => ?_⟩
  · have hleast := Nat.isLeast_find (p := IsClosingSlash ('/' :: rest)) ⟨i, hi⟩
    have hfound := (hsome _).2 ⟨_, hleast, rfl⟩
    rw [hnone] at hfound
    cases hfound
  · cases hseparator : modifierSeparator? ('/' :: rest) with
    | none => rfl
    | some place =>
      obtain ⟨i, hleast, -⟩ := (hsome place).1 hseparator
      exact absurd hleast.1 (hopen i)

/-- A rule whose first slash before a dollar sign stands behind three backslashes, the second behind
four. -/
theorem separator_behind_first_closing_slash_of_backslashes :
    let body := "/a\\\\\\/$b\\\\\\\\/$image".toList
    body.head? = some '/' ∧ modifierSeparator? body = some 13 ∧ ¬ IsClosingSlash body 5 ∧
      IsClosingSlash body 12 := by
  intro body
  have hhead : body.head? = some '/' := rfl
  have hfirst : modifierSeparator? body = some 13 := by decide
  obtain ⟨hsome, -⟩ := separator_behind_first_closing_slash hhead
  obtain ⟨i, hleast, hplace⟩ := (hsome 13).1 hfirst
  obtain rfl : i = 12 := by omega
  exact ⟨hhead, hfirst, by decide, hleast.1⟩

end ContentBlocker
