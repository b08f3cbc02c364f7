import Mathlib.Data.List.TakeDrop
import ContentBlocker.Json.Reader
import ContentBlocker.Json.Writer

/-!
# Reading the tokens of a value

What is written for a string is read back up to its closing mark, whatever stands behind it
(`readString_flatMap_escapeChar`).  What is written for a count is read back as long as nothing
stands behind it that a numeral could go on with (`readNumber_toDigits`): a numeral does not say
where it ends, and `1` is the start of `12` and of `1e2`.

White space between tokens is passed over.
-/

set_option autoImplicit false
namespace ContentBlocker.Json

open Text (isDigit isDigit_ten)

/-! ## White space -/

/-- White space between two tokens, or nothing. -/
def IsGap (s : List Char) : Prop :=
  ∀ c ∈ s, isSpace c = true

theorem isGap_nil : IsGap [] :=
  nofun

theorem skipSpace_cons {c : Char} (h : isSpace c = false) (s : List Char) :
    skipSpace (c :: s) = c :: s := by
  rw [skipSpace, List.dropWhile_cons, h]
  rfl

theorem IsGap.skipSpace_append {gap : List Char} (h : IsGap gap) (s : List Char) :
    skipSpace (gap ++ s) = skipSpace s :=
  List.dropWhile_append_of_pos h

theorem exists_gap (s : List Char) : ∃ gap, IsGap gap ∧ s = gap ++ skipSpace s :=
  ⟨s.takeWhile isSpace, fun _ hc => List.all_eq_true.1 List.all_takeWhile _ hc,
    List.takeWhile_append_dropWhile.symm⟩

/-! ## Strings -/

private theorem digitValue?_hexDigit :
    ∀ n < 16, Text.digitValue? 16 (hexDigit n) = some n := by
  decide

/-- Reading takes an escape for the character that it was written for. -/
theorem readUnits_escapeChar (units : List Nat) (c : Char) (rest : List Char) :
    readUnits units (escapeChar c ++ rest) = readUnits (c.toNat :: units) rest := by
  unfold escapeChar
  iterate 7 (split; · subst c; rfl)
  rename_i hquote hslash _ _ _ _ _
  split
  · rename_i hlow
    have hhigh := digitValue?_hexDigit (c.toNat / 16) (by omega)
    have hlast := digitValue?_hexDigit (c.toNat % 16) (by omega)
    have hvalue :
        Text.digitsValue? 16 ['0', '0', hexDigit (c.toNat / 16), hexDigit (c.toNat % 16)] =
          some c.toNat := by
      have hzero : Text.digitValue? 16 '0' = some 0 := rfl
      simp only [Text.digitsValue?, List.foldlM_cons, List.foldlM_nil, hzero, hhigh, hlast,
        Option.map_some, Option.bind_eq_bind, Option.bind_some, Option.pure_def]
      congr 1
      omega
    simp only [List.cons_append, List.nil_append, readUnits, hvalue]
  · rename_i hlow
    rw [List.singleton_append, readUnits]
    · rw [if_neg hlow]
    · exact hquote
    · exact fun _ _ _ _ _ h => absurd h hslash
    · exact fun _ _ h => absurd h hslash

theorem readUnits_flatMap_escapeChar (units : List Nat) (s rest : List Char) :
    readUnits units (s.flatMap escapeChar ++ '"' :: rest) =
      some (units.reverse ++ s.map Char.toNat, rest) := by
  induction s generalizing units with
  | nil => simp [readUnits]
  | cons c s ih =>
    rw [List.flatMap_cons, List.append_assoc, readUnits_escapeChar, ih]
    simp

private theorem charOfUnit_toNat (c : Char) : charOfUnit c.toNat = c := by
  have hvalid : c.toNat.isValidChar := c.valid
  rw [charOfUnit, if_pos hvalid, Char.ofNat_toNat]

/-- A character is never one half of a pair of surrogates. -/
private theorem not_highSurrogate (c : Char) : ¬ (0xd800 ≤ c.toNat ∧ c.toNat < 0xdc00) := by
  have hvalid : c.toNat < 0xd800 ∨ 0xdfff < c.toNat ∧ c.toNat < 0x110000 := c.valid
  omega

private theorem joinSurrogates_map_toNat (s : List Char) :
    joinSurrogates (s.map Char.toNat) = s := by
  induction s with
  | nil => rfl
  | cons c s ih =>
    cases s with
    | nil => rw [List.map_singleton, joinSurrogates, charOfUnit_toNat]
    | cons d s =>
      have hc := not_highSurrogate c
      rw [List.map_cons, List.map_cons, joinSurrogates, if_neg (by omega), charOfUnit_toNat,
        ← List.map_cons, ih]

theorem readString_flatMap_escapeChar (s rest : List Char) :
    readString (s.flatMap escapeChar ++ '"' :: rest) = some (String.ofList s, rest) := by
  simp only [readString, readUnits_flatMap_escapeChar, List.reverse_nil, List.nil_append,
    Option.map_some, joinSurrogates_map_toNat]

/-! ## Counts -/

/-- Whether a numeral can go on with a character. -/
def goesOn (c : Char) : Bool :=
  isDigit 10 c || c == '.' || c == 'e' || c == 'E'

/-- A text that a numeral before it does not go on with. -/
def EndsNumeral (rest : List Char) : Prop :=
  ∀ c ∈ rest.head?, goesOn c = false

theorem endsNumeral_nil : EndsNumeral [] :=
  nofun

theorem endsNumeral_cons {c : Char} (h : goesOn c = false) (s : List Char) :
    EndsNumeral (c :: s) := by
  rintro d ⟨⟩
  exact h

theorem goesOn_of_isSpace {c : Char} (h : isSpace c = true) : goesOn c = false := by
  simp only [isSpace, Bool.or_eq_true, beq_iff_eq] at h
  rcases h with ((rfl | rfl) | rfl) | rfl <;> decide

/-- White space ends a numeral, and so does a character behind it that does not go on with one. -/
theorem IsGap.endsNumeral {gap : List Char} (h : IsGap gap) {c : Char} (hc : goesOn c = false)
    (s : List Char) : EndsNumeral (gap ++ c :: s) := by
  cases gap with
  | nil => exact endsNumeral_cons hc s
  | cons d gap => exact endsNumeral_cons (goesOn_of_isSpace (h d List.mem_cons_self)) _

section
variable {rest : List Char} (h : EndsNumeral rest)
include h

theorem EndsNumeral.readDigits_append {s : List Char} (hne : s ≠ [])
    (hs : ∀ c ∈ s, isDigit 10 c = true) : readDigits (s ++ rest) = some (s, rest) := by
  have hstop : rest.takeWhile (isDigit 10) = [] ∧ rest.dropWhile (isDigit 10) = rest := by
    cases rest with
    | nil => exact ⟨rfl, rfl⟩
    | cons c rest =>
      have hc : ¬ isDigit 10 c = true := fun hdigit => by
        have hgo := h c rfl
        rw [goesOn, hdigit] at hgo
        cases hgo
      exact ⟨List.takeWhile_cons_of_neg hc, List.dropWhile_cons_of_neg hc⟩
  have hspan : (s ++ rest).span (isDigit 10) = (s, rest) := by
    rw [List.span_eq_takeWhile_dropWhile, List.takeWhile_append_of_pos hs,
      List.dropWhile_append_of_pos hs, hstop.1, hstop.2, List.append_nil]
  rw [readDigits, hspan]
  cases s with
  | nil => exact absurd rfl hne
  | cons c s => rfl

theorem EndsNumeral.readFraction_eq : readFraction rest = some ([], rest) := by
  rw [readFraction]
  rintro s rfl
  exact absurd (h '.' rfl) (by decide)

theorem EndsNumeral.readExponent_eq : readExponent rest = some ([], rest) := by
  rw [readExponent]
  · rintro s rfl
    exact absurd (h 'e' rfl) (by decide)
  · rintro s rfl
    exact absurd (h 'E' rfl) (by decide)

end

/-- A numeral begins with a zero only if it is nothing else. -/
theorem head?_toDigits_ne_zero {n : Nat} (h : n ≠ 0) : (Nat.toDigits 10 n).head? ≠ some '0' := by
  induction n using Nat.strongRecOn with
  | ind n ih =>
    by_cases hlt : n < 10
    · have hdigit : ∀ m < 10, m ≠ 0 → m.digitChar ≠ '0' := by decide
      rw [Nat.toDigits_of_lt_base hlt]
      exact fun heq => hdigit n hlt h (Option.some.inj heq)
    · obtain ⟨d, digits, hdigits⟩ := List.exists_cons_of_ne_nil (Nat.toDigits_ne_nil (n := n / 10))
      have hhead := ih (n / 10) (by omega) (by omega)
      rw [Nat.toDigits_of_base_le (by decide) (Nat.le_of_not_lt hlt)]
      rw [hdigits] at hhead ⊢
      exact hhead

theorem isDigit_of_mem_toDigits {n : Nat} {c : Char} (h : c ∈ Nat.toDigits 10 n) :
    isDigit 10 c = true := by
  rw [isDigit_ten]
  exact Nat.isDigit_of_mem_toDigits (by decide) (Nat.le_refl 10) h

/-- A text that begins with a digit has no sign. -/
theorem readSign_of_isDigit {d : Char} (h : isDigit 10 d = true) (s : List Char) :
    readSign (d :: s) = ([], d :: s) := by
  rw [readSign]
  rintro _ ⟨⟩
  cases h

/-- **A count is read back**, if nothing stands behind it with which its numeral could go on. -/
theorem readNumber_toDigits (n : Nat) {rest : List Char} (h : EndsNumeral rest) :
    readNumber (Nat.toDigits 10 n ++ rest) = some (.ofNat n, rest) := by
  have hdigit : ∀ c ∈ Nat.toDigits 10 n, isDigit 10 c = true := fun c => isDigit_of_mem_toDigits
  have hsign : readSign (Nat.toDigits 10 n ++ rest) = ([], Nat.toDigits 10 n ++ rest) := by
    obtain ⟨d, digits, hdigits⟩ := List.exists_cons_of_ne_nil (Nat.toDigits_ne_nil (n := n))
    rw [hdigits] at hdigit ⊢
    exact readSign_of_isDigit (hdigit d List.mem_cons_self) _
  have hwhole : readWhole (Nat.toDigits 10 n ++ rest) = some (Nat.toDigits 10 n, rest) := by
    by_cases hn : n = 0
    · rw [hn, Nat.toDigits_zero]
      rfl
    · rw [readWhole]
      · exact h.readDigits_append Nat.toDigits_ne_nil hdigit
      · -- only the numeral of zero begins with one
        intro s hs
        have hhead := head?_toDigits_ne_zero hn
        obtain ⟨d, digits, hdigits⟩ := List.exists_cons_of_ne_nil (Nat.toDigits_ne_nil (n := n))
        rw [hdigits] at hs hhead
        exact hhead (congrArg List.head? hs)
  have hnumeral : String.ofList (Nat.toDigits 10 n) = toString n := rfl
  simp only [readNumber, hsign, hwhole, h.readFraction_eq, h.readExponent_eq, Option.bind_eq_bind,
    Option.bind_some, List.nil_append, List.append_nil, hnumeral]
  rfl

end ContentBlocker.Json
