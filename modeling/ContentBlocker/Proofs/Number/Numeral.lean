import ContentBlocker.Proofs.Number.Rounding
import ContentBlocker.Proofs.Regex.Extent

/-!
# Which texts are numerals

`Numeral` tells numerals without a reader: it is a relation between a text and the number that it
writes, with one rule for each kind of numeral and none for blanks.  A decimal numeral writes its
digits times a power of ten, rounded once.

Reading gives back exactly what is written (`Number.ofChars_eq_iff`).  A text that is no numeral
without the blanks around it is no number, with one exception: a text of blanks only is not a
numeral, but it is read as zero.
-/

set_option autoImplicit false
namespace ContentBlocker

open Text (digitsValue? isDigit)

/-! ## Numerals -/

/-- The sign before a numeral, if there is one; `true` is a minus. -/
inductive SignText : List Char → Bool → Prop
  | none : SignText [] false
  | plus : SignText ['+'] false
  | minus : SignText ['-'] true

/-- The exponent of a decimal numeral: nothing, or a letter and a whole number. -/
inductive ExponentText : List Char → Int → Prop
  | none : ExponentText [] 0
  | written {letter : Char} {sign digits : List Char} {negative : Bool} {n : Nat} :
      letter = 'e' ∨ letter = 'E' → SignText sign negative → digitsValue? 10 digits = some n →
        ExponentText (letter :: (sign ++ digits)) (if negative then -(n : Int) else n)

/-- The digits of a decimal numeral before its point and behind it, if it has a point. -/
inductive PointText : List Char → List Char → List Char → Prop
  | whole (digits : List Char) : PointText digits digits []
  | point (whole fraction : List Char) : PointText (whole ++ '.' :: fraction) whole fraction

/-- What marks a whole number to another base. -/
def baseMarks : List (Char × Nat) :=
  [('x', 16), ('X', 16), ('o', 8), ('O', 8), ('b', 2), ('B', 2)]

/-- A text that is a numeral, and the number that it writes. -/
inductive Numeral : List Char → Number → Prop
  | infinity {sign : List Char} {negative : Bool} :
      SignText sign negative → Numeral (sign ++ "Infinity".toList) (.infinite negative)
  | decimal {sign digits whole fraction exponent : List Char} {negative : Bool} {n : Nat} {e : Int} :
      SignText sign negative → PointText digits whole fraction →
      digitsValue? 10 (whole ++ fraction) = some n → ExponentText exponent e →
        Numeral (sign ++ (digits ++ exponent)) (.ofScaled negative n (e - fraction.length))
  | marked {mark : Char} {base : Nat} {digits : List Char} {n : Nat} :
      (mark, base) ∈ baseMarks → digitsValue? base digits = some n →
        Numeral ('0' :: mark :: digits) (.ofNat n)

/-- A character that stands in a decimal numeral. -/
def IsDecimalChar (c : Char) : Prop :=
  isDigit 10 c = true ∨ c ∈ ['+', '-', '.', 'e', 'E']

theorem not_isDecimalChar_of_mark {mark : Char} {base : Nat} (h : (mark, base) ∈ baseMarks) :
    ¬ IsDecimalChar mark := by
  have hmarks : ∀ pair ∈ baseMarks,
      isDigit 10 pair.1 = false ∧ pair.1 ∉ ['+', '-', '.', 'e', 'E'] := by decide
  obtain ⟨hdigit, hother⟩ := hmarks _ h
  rintro (hc | hc)
  · rw [hdigit] at hc
    cases hc
  · exact hother hc

/-- A number of one digit or more begins with a digit. -/
theorem exists_cons_of_digitsValue? {base n : Nat} {digits : List Char}
    (h : digitsValue? base digits = some n) :
    ∃ c rest, digits = c :: rest ∧ isDigit base c = true := by
  cases digits with
  | nil => cases h
  | cons c rest => exact ⟨c, rest, rfl, Regex.isDigit_of_digitsValue? h c List.mem_cons_self⟩

/-! ## Signs -/

/-- A text that does not begin with a sign. -/
def Unsigned (s : List Char) : Prop :=
  s.head? ≠ some '+' ∧ s.head? ≠ some '-'

theorem unsigned_cons {c : Char} (h : isDigit 10 c = true ∨ c = '.') (rest : List Char) :
    Unsigned (c :: rest) := by
  constructor
  · intro heq
    obtain rfl := Option.some.inj heq
    exact h.elim (fun h => nomatch h) (by decide)
  · intro heq
    obtain rfl := Option.some.inj heq
    exact h.elim (fun h => nomatch h) (by decide)

namespace SignText

variable {sign : List Char} {negative : Bool}

theorem splitSign_append (h : SignText sign negative) {rest : List Char} (hrest : Unsigned rest) :
    Number.splitSign (sign ++ rest) = (negative, rest) := by
  cases h with
  | none =>
    rw [List.nil_append, Number.splitSign]
    · rintro rest' rfl
      exact hrest.2 rfl
    · rintro rest' rfl
      exact hrest.1 rfl
  | plus => rfl
  | minus => rfl

theorem exists_of_splitSign {s rest : List Char} (h : Number.splitSign s = (negative, rest)) :
    ∃ sign, SignText sign negative ∧ s = sign ++ rest := by
  rw [Number.splitSign.eq_def] at h
  split at h
  · cases h
    exact ⟨['-'], .minus, rfl⟩
  · cases h
    exact ⟨['+'], .plus, rfl⟩
  · cases h
    exact ⟨[], .none, rfl⟩

theorem isDecimalChar (h : SignText sign negative) {c : Char} (hc : c ∈ sign) :
    IsDecimalChar c := by
  right
  cases h with
  | none => cases hc
  | plus =>
    rw [List.mem_singleton.1 hc]
    decide
  | minus =>
    rw [List.mem_singleton.1 hc]
    decide

end SignText

/-! ## Exponents -/

theorem exponent?_eq_some_iff {s : List Char} {e : Int} :
    Number.exponent? s = some e ↔ ExponentText s e := by
  constructor
  · intro h
    rw [Number.exponent?.eq_def] at h
    split at h
    · cases h
      exact .none
    · rename_i letter rest
      obtain ⟨hletter, h⟩ := Option.ite_none_right_eq_some.1 h
      rcases hsplit : Number.splitSign rest with ⟨negative, digits⟩
      rw [hsplit] at h
      obtain ⟨value, hvalue, rfl⟩ := Option.map_eq_some_iff.1 h
      obtain ⟨n, hn, ⟨⟩⟩ := Option.bind_eq_some_iff.1 hvalue
      obtain ⟨sign, hsign, rfl⟩ := SignText.exists_of_splitSign hsplit
      exact .written hletter hsign hn
  · intro h
    cases h with
    | none => rfl
    | @written letter sign digits negative n hletter hsign hdigits =>
      obtain ⟨c, rest, rfl, hc⟩ := exists_cons_of_digitsValue? hdigits
      rw [Number.exponent?, if_pos hletter, hsign.splitSign_append (unsigned_cons (.inl hc) rest)]
      exact Option.map_eq_some_iff.2 ⟨n, Option.bind_eq_some_iff.2 ⟨n, hdigits, rfl⟩, rfl⟩

namespace ExponentText

variable {exponent : List Char} {e : Int} (h : ExponentText exponent e)
include h

theorem takeWhile_eq_nil : exponent.takeWhile (isDigit 10) = [] := by
  cases h with
  | none => rfl
  | written hletter => rcases hletter with rfl | rfl <;> rfl

theorem dropWhile_eq_self : exponent.dropWhile (isDigit 10) = exponent := by
  cases h with
  | none => rfl
  | written hletter => rcases hletter with rfl | rfl <;> rfl

theorem ne_point (rest : List Char) : exponent ≠ '.' :: rest := by
  rintro rfl
  cases h with
  | written hletter => rcases hletter with heq | heq <;> cases heq

theorem isDecimalChar {c : Char} (hc : c ∈ exponent) : IsDecimalChar c := by
  cases h with
  | none => cases hc
  | written hletter hsign hdigits =>
    rcases List.mem_cons.1 hc with rfl | hc
    · right
      rcases hletter with rfl | rfl <;> decide
    · rcases List.mem_append.1 hc with hc | hc
      · exact hsign.isDecimalChar hc
      · exact .inl (Regex.isDigit_of_digitsValue? hdigits c hc)

end ExponentText

/-! ## Decimal numerals without a sign -/

section
variable {digits whole fraction exponent : List Char} {n : Nat} {e : Int}
  (hpoint : PointText digits whole fraction)
  (hdigits : digitsValue? 10 (whole ++ fraction) = some n)
include hpoint hdigits

theorem isDigit_or_point {c : Char} (hc : c ∈ digits) : isDigit 10 c = true ∨ c = '.' := by
  have hall := Regex.isDigit_of_digitsValue? hdigits c
  cases hpoint with
  | whole => exact .inl (hall (by rwa [List.append_nil]))
  | point =>
    rcases List.mem_append.1 hc with hc | hc
    · exact .inl (hall (List.mem_append_left _ hc))
    · rcases List.mem_cons.1 hc with rfl | hc
      · exact .inr rfl
      · exact .inl (hall (List.mem_append_right _ hc))

/-- There is a digit in a decimal numeral. -/
theorem exists_isDigit : ∃ c ∈ digits, isDigit 10 c = true := by
  obtain ⟨c, rest, hcons, hc⟩ := exists_cons_of_digitsValue? hdigits
  have hmem : c ∈ whole ++ fraction := by
    rw [hcons]
    exact List.mem_cons_self
  refine ⟨c, ?_, hc⟩
  cases hpoint with
  | whole => rwa [List.append_nil] at hmem
  | point =>
    rcases List.mem_append.1 hmem with hmem | hmem
    · exact List.mem_append_left _ hmem
    · exact List.mem_append_right _ (List.mem_cons_of_mem _ hmem)

/-- A decimal numeral without a sign begins with a digit or a point. -/
theorem exists_cons_append (exponent : List Char) : ∃ c rest,
    digits ++ exponent = c :: rest ∧ (isDigit 10 c = true ∨ c = '.') := by
  obtain ⟨d, hd, -⟩ := exists_isDigit hpoint hdigits
  obtain ⟨c, rest, rfl⟩ := List.exists_cons_of_ne_nil (List.ne_nil_of_mem hd)
  exact ⟨c, rest ++ exponent, rfl, isDigit_or_point hpoint hdigits List.mem_cons_self⟩

theorem ofUnsigned_append (hexponent : ExponentText exponent e) (negative : Bool) :
    Number.ofUnsigned negative (digits ++ exponent) =
      .ofScaled negative n (e - fraction.length) := by
  have hall := Regex.isDigit_of_digitsValue? hdigits
  have hwhole : ∀ c ∈ whole, isDigit 10 c = true := fun c hc => hall c (List.mem_append_left _ hc)
  have hfraction : ∀ c ∈ fraction, isDigit 10 c = true :=
    fun c hc => hall c (List.mem_append_right _ hc)
  have hvalue := exponent?_eq_some_iff.2 hexponent
  rw [← Number.ofDecimal_eq_ofScaled, Number.ofUnsigned]
  cases hpoint with
  | whole =>
    rw [List.takeWhile_append_of_pos hwhole, List.dropWhile_append_of_pos hwhole,
      hexponent.takeWhile_eq_nil, hexponent.dropWhile_eq_self, List.append_nil]
    split
    rename_i fraction' rest' heq
    split at heq
    · rename_i rest
      exact absurd rfl (hexponent.ne_point rest)
    · cases heq
      simp only [hdigits, hvalue]
  | point =>
    have hrest : ('.' :: (fraction ++ exponent)).takeWhile (isDigit 10) = [] ∧
        ('.' :: (fraction ++ exponent)).dropWhile (isDigit 10) = '.' :: (fraction ++ exponent) :=
      ⟨rfl, rfl⟩
    rw [List.append_assoc, List.cons_append, List.takeWhile_append_of_pos hwhole,
      List.dropWhile_append_of_pos hwhole, hrest.1, hrest.2, List.append_nil]
    simp only [List.takeWhile_append_of_pos hfraction, List.dropWhile_append_of_pos hfraction,
      hexponent.takeWhile_eq_nil, hexponent.dropWhile_eq_self, List.append_nil, hdigits, hvalue]

/-- A decimal numeral has nothing in it but what stands in decimal numerals. -/
theorem isDecimalChar_of_mem {sign : List Char} {negative : Bool} (hsign : SignText sign negative)
    (hexponent : ExponentText exponent e) {c : Char} (hc : c ∈ sign ++ (digits ++ exponent)) :
    IsDecimalChar c := by
  rcases List.mem_append.1 hc with hc | hc
  · exact hsign.isDecimalChar hc
  · rcases List.mem_append.1 hc with hc | hc
    · rcases isDigit_or_point hpoint hdigits hc with hc | rfl
      · exact .inl hc
      · exact .inr (by decide)
    · exact hexponent.isDecimalChar hc

end

/-- What is read as a decimal numeral without a sign is one. -/
theorem exists_texts_of_ofUnsigned {negative : Bool} {s : List Char}
    (h : Number.ofUnsigned negative s ≠ .notANumber) :
    ∃ digits whole fraction exponent n e, s = digits ++ exponent ∧
      PointText digits whole fraction ∧ digitsValue? 10 (whole ++ fraction) = some n ∧
      ExponentText exponent e := by
  have hs := List.takeWhile_append_dropWhile (p := isDigit 10) (l := s)
  rw [Number.ofUnsigned] at h
  generalize s.takeWhile (isDigit 10) = whole at hs h
  generalize s.dropWhile (isDigit 10) = rest at hs h
  split at h
  rename_i fraction exponent hsplit
  obtain ⟨digits, hpoint, hdigits⟩ : ∃ digits, PointText digits whole fraction ∧
      whole ++ rest = digits ++ exponent := by
    split at hsplit
    · cases hsplit
      refine ⟨_, .point whole _, ?_⟩
      rw [List.append_assoc, List.cons_append, List.takeWhile_append_dropWhile]
    · cases hsplit
      exact ⟨whole, .whole whole, rfl⟩
  split at h
  · rename_i n e hn he
    exact ⟨digits, whole, fraction, exponent, n, e, hs ▸ hdigits, hpoint, hn,
      exponent?_eq_some_iff.1 he⟩
  · exact absurd rfl h

/-! ## Numerals of all kinds -/

namespace Number

variable {s : List Char} {x : Number}

/-- What begins with the mark of a base is a number to that base. -/
theorem ofChars_of_marked {mark : Char} {base : Nat} {digits : List Char}
    (hmark : (mark, base) ∈ baseMarks) (h : Text.trimChars s = '0' :: mark :: digits) :
    ofChars s = ofBase base digits := by
  have hmarks : (mark, base) = ('x', 16) ∨ (mark, base) = ('X', 16) ∨ (mark, base) = ('o', 8) ∨
      (mark, base) = ('O', 8) ∨ (mark, base) = ('b', 2) ∨ (mark, base) = ('B', 2) := by
    simpa [baseMarks] using hmark
  rw [ofChars, h]
  rcases hmarks with heq | heq | heq | heq | heq | heq <;> cases heq <;> rfl

/-- All else is a decimal numeral or infinity, if it is not empty. -/
theorem ofChars_of_unmarked {negative : Bool} {rest : List Char} (hne : Text.trimChars s ≠ [])
    (hmark : ∀ mark base digits, Text.trimChars s = '0' :: mark :: digits →
      (mark, base) ∉ baseMarks)
    (hsplit : splitSign (Text.trimChars s) = (negative, rest)) :
    ofChars s =
      if rest = "Infinity".toList then .infinite negative else ofUnsigned negative rest := by
  rw [ofChars]
  split
  · rename_i htrim
    exact absurd htrim hne
  · rename_i digits htrim
    exact absurd (by decide) (hmark 'x' 16 digits htrim)
  · rename_i digits htrim
    exact absurd (by decide) (hmark 'X' 16 digits htrim)
  · rename_i digits htrim
    exact absurd (by decide) (hmark 'o' 8 digits htrim)
  · rename_i digits htrim
    exact absurd (by decide) (hmark 'O' 8 digits htrim)
  · rename_i digits htrim
    exact absurd (by decide) (hmark 'b' 2 digits htrim)
  · rename_i digits htrim
    exact absurd (by decide) (hmark 'B' 2 digits htrim)
  · rw [hsplit]

theorem ofBase_eq_iff {base : Nat} {digits : List Char} (hx : x ≠ .notANumber) :
    ofBase base digits = x ↔ ∃ n, digitsValue? base digits = some n ∧ x = .ofNat n := by
  rw [ofBase]
  cases hvalue : digitsValue? base digits with
  | none =>
    refine iff_of_false hx.symm ?_
    rintro ⟨n, hn, -⟩
    cases hn
  | some n =>
    constructor
    · rintro rfl
      exact ⟨n, rfl, rfl⟩
    · rintro ⟨_, ⟨⟩, rfl⟩
      rfl

/-- **A numeral is read as the number that it writes.** -/
theorem ofChars_of_numeral (h : Numeral (Text.trimChars s) x) : ofChars s = x := by
  generalize htrim : Text.trimChars s = written at h
  cases h with
  | @infinity sign negative hsign =>
    have hword : "Infinity".toList = 'I' :: "nfinity".toList := rfl
    have hunsigned : Unsigned "Infinity".toList := by
      rw [hword]
      exact ⟨by simp, by simp⟩
    have hread : ofChars s = if "Infinity".toList = "Infinity".toList then .infinite negative
        else ofUnsigned negative "Infinity".toList := by
      refine ofChars_of_unmarked ?_ ?_ (by rw [htrim, hsign.splitSign_append hunsigned])
      · rw [htrim, hword]
        exact List.append_ne_nil_of_right_ne_nil _ (List.cons_ne_nil _ _)
      · rw [htrim, hword]
        rintro mark base rest heq
        cases hsign <;> cases heq
    rw [hread, if_pos (Eq.refl _)]
  | @decimal sign digits whole fraction exponent negative n e hsign hpoint hdigits hexponent =>
    obtain ⟨c, rest, hcons, hc⟩ := exists_cons_append hpoint hdigits exponent
    have hsplit := hsign.splitSign_append (hcons ▸ unsigned_cons hc rest)
    rw [ofChars_of_unmarked ?_ ?_ (by rw [htrim, hsplit]), if_neg,
      ofUnsigned_append hpoint hdigits hexponent]
    · rw [hcons]
      rintro heq
      obtain rfl : c = 'I' := (List.cons.inj heq).1
      exact hc.elim (fun h => nomatch h) (by decide)
    · rw [htrim, hcons]
      exact List.append_ne_nil_of_right_ne_nil _ (List.cons_ne_nil _ _)
    · rintro mark base rest' heq hmark
      have hmem : mark ∈ sign ++ (digits ++ exponent) := by
        rw [← htrim, heq]
        exact List.mem_cons_of_mem _ List.mem_cons_self
      exact not_isDecimalChar_of_mark hmark
        (isDecimalChar_of_mem hpoint hdigits hsign hexponent hmem)
  | @marked mark base digits n hmark hdigits =>
    rw [ofChars_of_marked hmark htrim, ofBase, hdigits]
    rfl

/-- What is read as a number is a numeral, or it is blank and read as zero. -/
theorem numeral_of_ofChars (h : ofChars s = x) (hx : x ≠ .notANumber) :
    Text.trimChars s = [] ∧ x = .ofNat 0 ∨ Numeral (Text.trimChars s) x := by
  by_cases hnil : Text.trimChars s = []
  · rw [ofChars, hnil] at h
    exact .inl ⟨hnil, h.symm⟩
  · right
    by_cases hmarked : ∃ mark base digits, Text.trimChars s = '0' :: mark :: digits ∧
        (mark, base) ∈ baseMarks
    · obtain ⟨mark, base, digits, htrim, hmark⟩ := hmarked
      rw [ofChars_of_marked hmark htrim, ofBase_eq_iff hx] at h
      obtain ⟨n, hn, rfl⟩ := h
      rw [htrim]
      exact .marked hmark hn
    · have hunmarked : ∀ mark base digits, Text.trimChars s = '0' :: mark :: digits →
          (mark, base) ∉ baseMarks :=
        fun mark base digits htrim hmark => hmarked ⟨mark, base, digits, htrim, hmark⟩
      rcases hsplit : splitSign (Text.trimChars s) with ⟨negative, rest⟩
      rw [ofChars_of_unmarked hnil hunmarked hsplit] at h
      obtain ⟨sign, hsign, htrim⟩ := SignText.exists_of_splitSign hsplit
      rw [htrim]
      split at h
      · rename_i hrest
        rw [hrest, ← h]
        exact .infinity hsign
      · obtain ⟨digits, whole, fraction, exponent, n, e, rfl, hpoint, hdigits, hexponent⟩ :=
          exists_texts_of_ofUnsigned (h.trans_ne hx)
        rw [← h, ofUnsigned_append hpoint hdigits hexponent]
        exact .decimal hsign hpoint hdigits hexponent

/-- **What is read as a number are the numerals**, without the blanks around them, and blank texts as
well, which are read as zero. -/
theorem ofChars_eq_iff (hx : x ≠ .notANumber) :
    ofChars s = x ↔
      Text.trimChars s = [] ∧ x = .ofNat 0 ∨ Numeral (Text.trimChars s) x := by
  refine ⟨fun h => numeral_of_ofChars h hx, ?_⟩
  rintro (⟨hnil, hzero⟩ | h)
  · rw [hzero, ofChars, hnil, ofNat]
  · exact ofChars_of_numeral h

end Number

/-! ## Natural numbers -/

/-- A numeral that writes a natural number has a digit, as it is not infinity. -/
theorem Numeral.exists_isDigit {s : List Char} {x : Number} (h : Numeral s x)
    (hx : x.toNat?.isSome = true) : ∃ c ∈ s, isDigit 10 c = true := by
  cases h with
  | infinity => cases hx
  | decimal hsign hpoint hdigits hexponent =>
    obtain ⟨c, hc, hdigit⟩ := ContentBlocker.exists_isDigit hpoint hdigits
    exact ⟨c, List.mem_append_right _ (List.mem_append_left _ hc), hdigit⟩
  | marked => exact ⟨'0', List.mem_cons_self, rfl⟩

theorem not_numeral_nil (x : Number) : ¬ Numeral [] x := by
  intro h
  have hne : ∀ s, Numeral s x → s ≠ [] := by
    rintro s (hsign | ⟨hsign, hpoint, hdigits, hexponent⟩ | ⟨hmark, hdigits⟩)
    · exact List.append_ne_nil_of_right_ne_nil _ (by simp)
    · obtain ⟨c, hc, -⟩ := ContentBlocker.exists_isDigit hpoint hdigits
      exact List.append_ne_nil_of_right_ne_nil _ (List.append_ne_nil_of_left_ne_nil
        (List.ne_nil_of_mem hc) _)
    · exact List.cons_ne_nil _ _
  exact hne [] h rfl

end ContentBlocker
