import ContentBlocker.Text.Lowercase

/-!
# ASCII within a text in lower case

Lower-casing looks at what stands around a letter, so a part of a text need not become what it
becomes on its own.  ASCII does: wherever it stands, it is lower-cased on its own
(`infix_lowerChars`), and what of it has no capital form is still there (`mem_lowerChars`).
-/

set_option autoImplicit false
namespace ContentBlocker.Text

/-- Only ASCII characters become ASCII characters when ASCII is lower-cased. -/
theorem toNat_lt_of_toLower {c : Char} (h : c.toLower.toNat < 0x80) : c.toNat < 0x80 := by
  by_cases hupper : c.val ≥ 'A'.val ∧ c.val ≤ 'Z'.val
  · have hle : c.toNat ≤ 0x5a := hupper.2
    omega
  · rwa [show c.toLower = c from dif_neg hupper] at h

/-- The lower-case form of a text ends in that of its end, which follows its start. -/
theorem exists_lowerFrom_append (before s t : List Char) :
    ∃ start, lowerFrom before (s ++ t) = start ++ lowerFrom (s.reverse ++ before) t := by
  induction s generalizing before with
  | nil => exact ⟨[], rfl⟩
  | cons c s ih =>
    obtain ⟨start, hstart⟩ := ih (c :: before)
    refine ⟨lowerAt before c (s ++ t) ++ start, ?_⟩
    rw [List.cons_append, lowerFrom, hstart, List.append_assoc, List.reverse_cons,
      List.append_assoc, List.singleton_append]

theorem lowerFrom_append_of_ascii {before s t : List Char} (h : ∀ c ∈ s, c.toNat < 0x80) :
    lowerFrom before (s ++ t) = s.map Char.toLower ++ lowerFrom (s.reverse ++ before) t := by
  induction s generalizing before with
  | nil => rfl
  | cons c s ih =>
    rw [List.cons_append, lowerFrom, lowerAt_of_ascii (h c List.mem_cons_self),
      ih fun d hd => h d (List.mem_cons_of_mem c hd), List.reverse_cons, List.append_assoc,
      List.singleton_append, List.map_cons]
    rfl

/-- **ASCII within a text is lower-cased on its own.** -/
theorem infix_lowerChars {s t : List Char} (hpart : s <:+: t) (h : ∀ c ∈ s, c.toNat < 0x80) :
    s.map Char.toLower <:+: lowerChars t := by
  obtain ⟨before, after, rfl⟩ := hpart
  obtain ⟨start, hstart⟩ := exists_lowerFrom_append [] before (s ++ after)
  rw [lowerChars, List.append_assoc, hstart, lowerFrom_append_of_ascii h]
  exact ⟨start, _, List.append_assoc _ _ _⟩

/-- What is no capital letter is kept. -/
theorem mem_lowerChars {c : Char} {s : List Char} (hascii : c.toNat < 0x80)
    (hlower : c.toLower = c) (h : c ∈ s) : c ∈ lowerChars s := by
  obtain ⟨before, after, rfl⟩ := List.append_of_mem h
  have hpart : [c] <:+: before ++ c :: after := ⟨before, after, by simp⟩
  have hmapped := infix_lowerChars hpart fun d hd => by rwa [List.mem_singleton.1 hd]
  rw [List.map_singleton, hlower] at hmapped
  exact hmapped.subset List.mem_cons_self

end ContentBlocker.Text
