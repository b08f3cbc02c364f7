/-!
# Blank characters and trimming

Lines of a filter list, modifiers, domains and numerals are all read without the blanks around
them.  A blank is one of twenty-five characters: the control characters from tab to carriage
return, the space separators of Unicode, the two line and paragraph separators, and the byte order
mark.  U+0085, U+180E and U+200B, which other definitions of "white space" take in, are not blank.

`trim` removes blanks at both ends and nothing else: what it removes is blank (`trimChars_spec`),
and what is left starts and ends with a character that is not (`isBlank_head_trimChars`,
`isBlank_getLast_trimChars`).
-/

set_option autoImplicit false
namespace ContentBlocker.Text

/-- Whether a character counts as blank space. -/
def isBlank (c : Char) : Bool :=
  let n := c.toNat
  (0x09 ≤ n && n ≤ 0x0d) || n == 0x20 || n == 0xa0 || n == 0x1680 || (0x2000 ≤ n && n ≤ 0x200a) ||
    n == 0x2028 || n == 0x2029 || n == 0x202f || n == 0x205f || n == 0x3000 || n == 0xfeff

example : isBlank '\u0085' = false ∧ isBlank '\u180e' = false ∧ isBlank '\u200b' = false := by
  decide

/-! ## Trimming -/

/-- The characters of `s` without the blanks at its start. -/
def trimStartChars (s : List Char) : List Char :=
  s.dropWhile isBlank

/-- The characters of `s` without the blanks at its end. -/
def trimEndChars (s : List Char) : List Char :=
  (s.reverse.dropWhile isBlank).reverse

/-- The characters of `s` without the blanks at either end. -/
def trimChars (s : List Char) : List Char :=
  trimEndChars (trimStartChars s)

/-- The text of `s` without the blanks at either end. -/
def trim (s : String) : String :=
  String.ofList (trimChars s.toList)

@[simp] theorem toList_trim (s : String) : (trim s).toList = trimChars s.toList := by
  simp [trim]

/-- Trimming at the end takes off a run of blanks. -/
theorem trimEndChars_append_blanks (s : List Char) :
    ∃ r, s = trimEndChars s ++ r ∧ ∀ c ∈ r, isBlank c = true := by
  refine ⟨(s.reverse.takeWhile isBlank).reverse, ?_, ?_⟩
  · rw [trimEndChars, ← List.reverse_append, List.takeWhile_append_dropWhile, List.reverse_reverse]
  · intro c hc
    exact List.all_eq_true.1 (List.all_takeWhile (l := s.reverse)) c (by simpa using hc)

/-- **Trimming loses blanks only**, and only at the two ends. -/
theorem trimChars_spec (s : List Char) :
    ∃ l r, s = l ++ trimChars s ++ r ∧ (∀ c ∈ l, isBlank c = true) ∧ ∀ c ∈ r, isBlank c = true := by
  obtain ⟨r, hr, hblank⟩ := trimEndChars_append_blanks (trimStartChars s)
  refine ⟨s.takeWhile isBlank, r, ?_, ?_, hblank⟩
  · rw [List.append_assoc, trimChars, ← hr, trimStartChars, List.takeWhile_append_dropWhile]
  · exact List.all_eq_true.1 List.all_takeWhile

theorem isBlank_getLast_trimEndChars {s : List Char} {c : Char}
    (h : (trimEndChars s).getLast? = some c) : isBlank c = false := by
  rw [trimEndChars, List.getLast?_reverse] at h
  have hc := List.head?_dropWhile_not isBlank s.reverse
  simpa [h] using hc

theorem isBlank_getLast_trimChars {s : List Char} {c : Char}
    (h : (trimChars s).getLast? = some c) : isBlank c = false :=
  isBlank_getLast_trimEndChars h

theorem isBlank_head_trimChars {s : List Char} {c : Char}
    (h : (trimChars s).head? = some c) : isBlank c = false := by
  have hstart := List.head?_dropWhile_not isBlank s
  obtain ⟨r, hr, -⟩ := trimEndChars_append_blanks (trimStartChars s)
  have hhead : (s.dropWhile isBlank).head? = some c := by
    rw [trimStartChars] at hr
    rw [hr, List.head?_append]
    rw [trimChars, trimStartChars] at h
    rw [h]; rfl
  simpa [hhead] using hstart

/-- A text that neither starts nor ends with a blank is its own trimming. -/
theorem trimChars_eq_self {s : List Char} (hhead : ∀ c, s.head? = some c → isBlank c = false)
    (hlast : ∀ c, s.getLast? = some c → isBlank c = false) : trimChars s = s := by
  have hdrop : ∀ t : List Char, (∀ c, t.head? = some c → isBlank c = false) →
      t.dropWhile isBlank = t := by
    intro t ht
    cases t with
    | nil => rfl
    | cons c t => simp [List.dropWhile, ht c rfl]
  rw [trimChars, trimStartChars, hdrop s hhead, trimEndChars,
    hdrop s.reverse (by simpa using hlast), List.reverse_reverse]

theorem trimChars_eq_nil_iff {s : List Char} :
    trimChars s = [] ↔ ∀ c ∈ s, isBlank c = true := by
  constructor
  · intro hnil c hc
    obtain ⟨before, after, hspec, hbefore, hafter⟩ := trimChars_spec s
    rw [hspec, hnil, List.append_nil] at hc
    exact (List.mem_append.1 hc).elim (hbefore c) (hafter c)
  · intro hblank
    obtain ⟨before, after, hspec, -, -⟩ := trimChars_spec s
    cases htrim : trimChars s with
    | nil => rfl
    | cons first rest =>
      have hfirst : isBlank first = false := isBlank_head_trimChars (by rw [htrim]; rfl)
      have hmem : first ∈ s := by
        rw [hspec, htrim]
        simp
      rw [hblank first hmem] at hfirst
      cases hfirst

end ContentBlocker.Text
