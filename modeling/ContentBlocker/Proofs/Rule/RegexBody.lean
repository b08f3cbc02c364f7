import ContentBlocker.Proofs.Rule.Separator

/-!
# What may stand between the slashes of a rule

In a rule that begins with a slash the dollar sign before the modifiers is found by a scan that
takes a backslash and the character behind it together.  What the scan finds can be told without it.
A character is escaped if an odd number of backslashes stands right before it (`endsInEscape`), and
the dollar sign that is looked for is the first one behind a slash that is not escaped.

`IsRegexBody` is said of a text that the scan passes over: it has no such dollar sign, and what
comes next is not escaped.  Behind it the scan finds the closing slash of the rule
(`IsRegexBody.separatorAfterSlash?_append`), and wherever the scan stops, such a text stands before
the slash (`exists_regexBody_of_separator`).

Together with the patterns that do not begin with a slash this tells all texts behind which the
dollar sign before the modifiers can stand (`StopsAtDollar`): behind each of them it is found, and
behind no other text.
-/

set_option autoImplicit false
namespace ContentBlocker

/-! ## Escaped characters -/

/-- The number of backslashes at the end of a text. -/
def backslashesAtEnd (s : List Char) : Nat :=
  (s.reverse.takeWhile (· == '\\')).length

/-- Whether what comes next is escaped: an odd number of backslashes stands right before it. -/
def endsInEscape (s : List Char) : Bool :=
  backslashesAtEnd s % 2 == 1

theorem backslashesAtEnd_append (s t : List Char) : backslashesAtEnd (s ++ t) =
    if backslashesAtEnd t = t.length then t.length + backslashesAtEnd s
    else backslashesAtEnd t := by
  rw [backslashesAtEnd, List.reverse_append, List.takeWhile_append, List.length_reverse,
    ← backslashesAtEnd]
  split
  · rw [List.length_append, List.length_reverse, ← backslashesAtEnd]
  · rfl

/-- What stands far before a character does not matter as long as it ends in no backslash, or in two
of them. -/
theorem endsInEscape_append {s : List Char} (hs : backslashesAtEnd s % 2 = 0) (t : List Char) :
    endsInEscape (s ++ t) = endsInEscape t := by
  rw [endsInEscape, endsInEscape, backslashesAtEnd_append]
  split
  · rename_i hall
    rw [hall, Nat.add_mod, hs, Nat.add_zero, Nat.mod_mod]
  · rfl

theorem endsInEscape_cons {c : Char} (hc : c ≠ '\\') (s : List Char) :
    endsInEscape (c :: s) = endsInEscape s := by
  refine endsInEscape_append (s := [c]) ?_ s
  simp [backslashesAtEnd, hc]

/-- A backslash and the character behind it escape nothing that comes later. -/
theorem endsInEscape_escape (c : Char) (s : List Char) :
    endsInEscape ('\\' :: c :: s) = endsInEscape s := by
  refine endsInEscape_append (s := ['\\', c]) ?_ s
  by_cases hc : c = '\\'
  · rw [hc]
    rfl
  · simp [backslashesAtEnd, hc]

/-! ## Texts that are passed over -/

/-- No dollar sign stands behind a slash that is not escaped, and what comes next is not escaped. -/
structure IsRegexBody (s : List Char) : Prop where
  closed : endsInEscape s = false
  escaped : ∀ before after, s = before ++ '/' :: '$' :: after → endsInEscape before = true

theorem isRegexBody_nil : IsRegexBody [] :=
  ⟨rfl, fun before after h => absurd h.symm (by simp)⟩

theorem isRegexBody_cons_iff {c : Char} (hc : c ≠ '\\') {s : List Char} :
    IsRegexBody (c :: s) ↔ IsRegexBody s ∧ ¬ (c = '/' ∧ s.head? = some '$') := by
  constructor
  · rintro ⟨hclosed, hescaped⟩
    refine ⟨⟨by rwa [endsInEscape_cons hc] at hclosed, fun before after hs => ?_⟩, ?_⟩
    · have hbefore := hescaped (c :: before) after (congrArg (c :: ·) hs)
      rwa [endsInEscape_cons hc] at hbefore
    · rintro ⟨rfl, hdollar⟩
      obtain ⟨after, rfl⟩ := List.head?_eq_some_iff.1 hdollar
      cases hescaped [] after rfl
  · rintro ⟨⟨hclosed, hescaped⟩, hslash⟩
    refine ⟨by rwa [endsInEscape_cons hc], fun before after hs => ?_⟩
    cases before with
    | nil =>
      obtain ⟨rfl, rfl⟩ := List.cons.inj hs
      exact absurd ⟨rfl, rfl⟩ hslash
    | cons d before =>
      obtain ⟨rfl, htail⟩ := List.cons.inj hs
      rw [endsInEscape_cons hc]
      exact hescaped before after htail

theorem isRegexBody_escape_iff {c : Char} {s : List Char} :
    IsRegexBody ('\\' :: c :: s) ↔ IsRegexBody s := by
  constructor
  · rintro ⟨hclosed, hescaped⟩
    refine ⟨by rwa [endsInEscape_escape] at hclosed, fun before after hs => ?_⟩
    have hbefore := hescaped ('\\' :: c :: before) after (congrArg (fun t => '\\' :: c :: t) hs)
    rwa [endsInEscape_escape] at hbefore
  · rintro ⟨hclosed, hescaped⟩
    refine ⟨by rwa [endsInEscape_escape], fun before after hs => ?_⟩
    cases before with
    | nil => cases (List.cons.inj hs).1
    | cons d before =>
      obtain ⟨rfl, htail⟩ := List.cons.inj hs
      cases before with
      | nil => rfl
      | cons e before =>
        obtain ⟨rfl, hrest⟩ := List.cons.inj htail
        rw [endsInEscape_escape]
        exact hescaped before after hrest

theorem not_isRegexBody_backslash : ¬ IsRegexBody ['\\'] :=
  fun h => nomatch h.closed

/-! ## The scan -/

/-- **The scan passes over such a text** and goes on at the slash behind it. -/
theorem IsRegexBody.separatorAfterSlash?_append {place : Nat} {s : List Char} (h : IsRegexBody s)
    (t : List Char) : separatorAfterSlash? place (s ++ '/' :: t) =
      separatorAfterSlash? (place + s.length) ('/' :: t) := by
  fun_induction separatorAfterSlash? place s with
  | case1 place => rfl
  | case2 place c rest ih =>
    rw [List.cons_append, List.cons_append, separatorAfterSlash?, ih (isRegexBody_escape_iff.1 h),
      List.length_cons, List.length_cons, Nat.add_assoc, Nat.add_comm 2]
  | case3 place rest =>
    obtain ⟨-, hslash⟩ := (isRegexBody_cons_iff (by decide)).1 h
    exact absurd ⟨rfl, rfl⟩ hslash
  | case4 place c rest hescape hsplit ih =>
    have hc : c ≠ '\\' := by
      rintro rfl
      cases rest with
      | nil => exact not_isRegexBody_backslash h
      | cons d rest => exact hescape d rest rfl rfl
    rw [List.cons_append, separatorAfterSlash?, ih ((isRegexBody_cons_iff hc).1 h).1,
      List.length_cons, Nat.add_assoc, Nat.add_comm 1]
    · intro d rest' hbackslash
      exact absurd hbackslash hc
    · intro rest' hslash heq
      cases rest with
      | nil => cases heq
      | cons d rest =>
        obtain ⟨rfl, -⟩ := List.cons.inj heq
        exact hsplit rest hslash rfl

/-- The dollar sign behind the closing slash is found. -/
theorem IsRegexBody.separatorAfterSlash?_dollar {place : Nat} {s : List Char} (h : IsRegexBody s)
    (t : List Char) : separatorAfterSlash? place (s ++ '/' :: '$' :: t) =
      some (place + s.length + 1) := by
  rw [h.separatorAfterSlash?_append, separatorAfterSlash?]

/-- Where nothing stands behind the closing slash, nothing is found. -/
theorem IsRegexBody.separatorAfterSlash?_end {place : Nat} {s : List Char} (h : IsRegexBody s) :
    separatorAfterSlash? place (s ++ ['/']) = none := by
  rw [h.separatorAfterSlash?_append]
  rfl

/-- **Wherever the scan stops, such a text stands before the slash.** -/
theorem exists_regexBody_of_separator {place k : Nat} {s : List Char}
    (h : separatorAfterSlash? place s = some k) :
    ∃ body t, IsRegexBody body ∧ s = body ++ '/' :: '$' :: t ∧ k = place + body.length + 1 := by
  fun_induction separatorAfterSlash? place s with
  | case1 place => cases h
  | case2 place c rest ih =>
    obtain ⟨body, t, hbody, rfl, rfl⟩ := ih h
    refine ⟨'\\' :: c :: body, t, isRegexBody_escape_iff.2 hbody, rfl, ?_⟩
    simp only [List.length_cons]
    omega
  | case3 place rest =>
    cases h
    exact ⟨[], rest, isRegexBody_nil, rfl, rfl⟩
  | case4 place c rest hescape hsplit ih =>
    obtain ⟨body, t, hbody, rfl, rfl⟩ := ih h
    have hc : c ≠ '\\' := by
      rintro rfl
      obtain ⟨d, rest, hrest⟩ : ∃ d rest, body ++ '/' :: '$' :: t = d :: rest :=
        List.exists_cons_of_ne_nil (by simp)
      exact hescape d rest rfl hrest
    refine ⟨c :: body, t, (isRegexBody_cons_iff hc).2 ⟨hbody, ?_⟩, rfl, ?_⟩
    · rintro ⟨hslash, hdollar⟩
      obtain ⟨body, rfl⟩ := List.head?_eq_some_iff.1 hdollar
      exact hsplit (body ++ '/' :: '$' :: t) hslash rfl
    · simp only [List.length_cons]
      omega

/-! ## Patterns before a dollar sign -/

/-- A pattern for which the dollar sign right behind it is the one before the modifiers. -/
inductive StopsAtDollar : List Char → Prop
  | plain {pattern : List Char} (slash : pattern.head? ≠ some '/') (dollar : '$' ∉ pattern) :
      StopsAtDollar pattern
  | regex {body : List Char} (isRegexBody : IsRegexBody body) : StopsAtDollar ('/' :: body ++ ['/'])

namespace StopsAtDollar

variable {pattern : List Char}

theorem splitModifiers_append (h : StopsAtDollar pattern) (options : List Char) :
    splitModifiers (pattern ++ '$' :: options) = (pattern, options) := by
  cases h with
  | plain hslash hdollar => exact ContentBlocker.splitModifiers_append hslash hdollar
  | @regex body hbody =>
    have htext : '/' :: body ++ ['/'] ++ '$' :: options =
        '/' :: (body ++ '/' :: '$' :: options) := by simp
    have hseparator : modifierSeparator? ('/' :: (body ++ '/' :: '$' :: options)) =
        some ('/' :: body ++ ['/']).length := by
      rw [modifierSeparator?, hbody.separatorAfterSlash?_dollar]
      simp only [List.length_append, List.length_cons, List.length_nil]
      congr 1
      omega
    rw [htext, splitModifiers, hseparator, ← htext]
    dsimp only
    rw [List.take_left, ← List.drop_drop, List.drop_left]
    rfl

/-- Without a dollar sign behind it the pattern is all there is. -/
theorem splitModifiers_eq (h : StopsAtDollar pattern) : splitModifiers pattern = (pattern, []) := by
  have hseparator : modifierSeparator? pattern = none := by
    cases h with
    | plain hslash hdollar =>
      rw [modifierSeparator?, List.idxOf?_eq_none_iff]
      · exact hdollar
      · rintro rest rfl
        exact hslash rfl
    | regex hbody => exact hbody.separatorAfterSlash?_end
  rw [splitModifiers, hseparator]

end StopsAtDollar

/-- **Before the modifiers of a rule stands a pattern that stops at their dollar sign.** -/
theorem exists_stopsAtDollar {s : List Char} {place : Nat} (h : modifierSeparator? s = some place) :
    ∃ pattern options, StopsAtDollar pattern ∧ s = pattern ++ '$' :: options := by
  rw [modifierSeparator?.eq_def] at h
  split at h
  · rename_i rest
    obtain ⟨body, options, hbody, rfl, -⟩ := exists_regexBody_of_separator h
    exact ⟨'/' :: body ++ ['/'], options, .regex hbody, by simp⟩
  · rename_i hslash
    obtain ⟨hlt, hplace, hbefore⟩ := List.idxOf?_eq_some_iff.1 h
    refine ⟨s.take place, s.drop (place + 1), .plain (fun hhead => ?_) fun hmem => ?_, ?_⟩
    · obtain ⟨rest, hrest⟩ := List.head?_eq_some_iff.1 hhead
      refine hslash (rest ++ s.drop place) ?_
      rw [← List.cons_append, ← hrest, List.take_append_drop]
    · obtain ⟨j, hj, hdollar⟩ := List.mem_take_iff_getElem.1 hmem
      exact hbefore j (by omega) hdollar
    · rw [← hplace, ← List.drop_eq_getElem_cons hlt, List.take_append_drop]

/-- A rule is its pattern, or its pattern stops at the dollar sign before its modifiers. -/
theorem splitModifiers_cases (s : List Char) :
    splitModifiers s = (s, []) ∨ StopsAtDollar (splitModifiers s).1 := by
  cases hseparator : modifierSeparator? s with
  | none =>
    left
    rw [splitModifiers, hseparator]
  | some place =>
    obtain ⟨pattern, options, hstops, rfl⟩ := exists_stopsAtDollar hseparator
    right
    rw [hstops.splitModifiers_append]
    exact hstops

end ContentBlocker
