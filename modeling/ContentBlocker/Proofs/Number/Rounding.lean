import Mathlib.Data.Nat.Digits.Defs
import ContentBlocker.Number.Reader

/-!
# Rounding far outside the range of magnitudes

A decimal numeral is rounded once.  Far outside the range of magnitudes its power of ten is not
computed, and this is no exception to the rule: what is too large is rounded to infinity
(`Magnitude.nearest_eq_none`), what is too small to zero (`Magnitude.nearest_eq_zero`), and the
bounds at which the power is given up are far beyond both.  So a decimal is rounded everywhere
(`Number.ofDecimal_eq_ofScaled`).
-/

set_option autoImplicit false
namespace ContentBlocker

namespace Magnitude

/-! ## Too large and too small

The powers of two have variable exponents here, so that none of them is computed. -/

theorem log2_mul_pow {n : Nat} (hn : n ≠ 0) (k : Nat) : (n * 2 ^ k).log2 = n.log2 + k := by
  have hne : n * 2 ^ k ≠ 0 := Nat.mul_ne_zero hn (Nat.two_pow_pos k).ne'
  have hlow := Nat.mul_le_mul_right (2 ^ k) (Nat.log2_self_le hn)
  have hhigh := Nat.mul_lt_mul_of_pos_right (Nat.lt_log2_self (n := n)) (Nat.two_pow_pos k)
  rw [Nat.log2_eq_iff hne, Nat.pow_add, Nat.add_right_comm, Nat.pow_add]
  exact ⟨hlow, hhigh⟩

theorem log2_le_log2 {m n : Nat} (hm : m ≠ 0) (h : m ≤ n) : m.log2 ≤ n.log2 := by
  have hn : n ≠ 0 := (Nat.lt_of_lt_of_le (Nat.pos_of_ne_zero hm) h).ne'
  exact (Nat.le_log2 hn).2 (Nat.le_trans (Nat.log2_self_le hm) h)

theorem inUnits_neg (num den : Nat) {shift : Nat} (h : 0 < shift) :
    inUnits num den (-shift) = (num * 2 ^ shift, den) := by
  rw [inUnits, if_neg (by omega), Int.neg_neg, Int.toNat_natCast]
  rfl

section
variable {num den bits : Nat} (hden : den ≠ 0) (hbits : 1100 ≤ bits)
include hden hbits

/-- What is beyond all magnitudes is rounded to none. -/
theorem nearest_eq_none (h : den * 2 ^ bits ≤ num) : nearest num den = none := by
  have hpos : den * 2 ^ bits ≠ 0 := Nat.mul_ne_zero hden (Nat.two_pow_pos bits).ne'
  have hnum : num ≠ 0 := (Nat.lt_of_lt_of_le (Nat.pos_of_ne_zero hpos) h).ne'
  have hlog := log2_le_log2 hpos h
  rw [log2_mul_pow hden] at hlog
  obtain ⟨guess, hguess⟩ : ∃ guess : Int,
    guess = max ((num.log2 : Int) - den.log2 - 53) (-1074) := ⟨_, rfl⟩
  have hlarge : 971 < guess := by omega
  -- the exponent is the guess, or up to two more
  have hexponent {exponent : Int} (h : guess ≤ exponent) (significand : Nat) :
      971 < (if significand < Nat.pow 2 53 then (⟨significand, exponent⟩ : Magnitude)
        else ⟨Nat.pow 2 52, exponent + 1⟩).exponent := by
    split
    · exact Int.lt_of_lt_of_le hlarge h
    · exact Int.lt_of_lt_of_le hlarge (Int.le_trans h (Int.le_add_one (Int.le_refl _)))
  rw [nearest]
  simp only [if_neg hnum]
  rw [← hguess]
  refine if_neg (Int.not_le.2 (hexponent ?_ _))
  split
  · exact Int.le_refl _
  · exact Int.le_add_one (Int.le_refl _)

/-- What is small beside the least magnitude is rounded to zero. -/
theorem nearest_eq_zero (h : num * 2 ^ bits ≤ den) : nearest num den = some ⟨0, -1074⟩ := by
  have hguess : (if num = 0 then (-1074 : Int)
      else max ((num.log2 : Int) - den.log2 - 53) (-1074)) = -1074 := by
    split
    · rfl
    · rename_i hnum
      have hlog := log2_le_log2 (Nat.mul_ne_zero hnum (Nat.two_pow_pos bits).ne') h
      rw [log2_mul_pow hnum] at hlog
      omega
  obtain ⟨shift, hshift⟩ : ∃ shift : Nat, shift = 1074 := ⟨_, rfl⟩
  have hunits : inUnits num den (-1074) = (num * 2 ^ shift, den) := by
    rw [show (-1074 : Int) = -shift by omega, inUnits_neg num den (by omega)]
  have hsmall : 2 * (num * 2 ^ shift) < den := by
    rcases Nat.eq_zero_or_pos num with rfl | hnum
    · omega
    · calc 2 * (num * 2 ^ shift) = num * 2 ^ (shift + 1) := by
            rw [Nat.mul_left_comm, Nat.mul_comm 2, ← Nat.pow_succ]
        _ < num * 2 ^ bits :=
            Nat.mul_lt_mul_of_pos_left (Nat.pow_lt_pow_right Nat.one_lt_two (by omega)) hnum
        _ ≤ den := h
  have hlt : num * 2 ^ shift < den := by omega
  have hrounded : roundedQuotient (num * 2 ^ shift) den = 0 := by
    rw [roundedQuotient]
    simp only [Nat.mod_eq_of_lt hlt, if_pos hsmall, Nat.div_eq_of_lt hlt]
  rw [nearest]
  simp only [hguess, hunits, Nat.div_eq_of_lt hlt, hrounded,
    if_pos (show 0 < Nat.pow 2 53 from Nat.two_pow_pos 53)]
  rfl

end
end Magnitude

/-! ## Decimals -/

namespace Number

/-- The number nearest to `n · 10 ^ exponent`. -/
def ofScaled (negative : Bool) (n : Nat) (exponent : Int) : Number :=
  if 0 ≤ exponent then ofRatio negative (n * 10 ^ exponent.toNat) 1
  else ofRatio negative n (10 ^ (-exponent).toNat)

theorem two_pow_le_ten_pow (k : Nat) : 2 ^ (3 * k) ≤ 10 ^ k := by
  rw [Nat.pow_mul]
  exact Nat.pow_le_pow_left (by decide) k

section
variable {num den k : Nat} (hden : den ≠ 0) (hk : 400 ≤ k) (negative : Bool)
include hden hk

theorem ofRatio_eq_infinite (h : den * 10 ^ k ≤ num) :
    ofRatio negative num den = .infinite negative := by
  have hpow := Nat.mul_le_mul_left den (two_pow_le_ten_pow k)
  rw [ofRatio, Magnitude.nearest_eq_none hden (by omega) (Nat.le_trans hpow h)]

theorem ofRatio_eq_zero (h : num * 10 ^ k ≤ den) :
    ofRatio negative num den = .finite negative ⟨0, -1074⟩ := by
  have hpow := Nat.mul_le_mul_left num (two_pow_le_ten_pow k)
  rw [ofRatio, Magnitude.nearest_eq_zero hden (by omega) (Nat.le_trans hpow h)]

end

theorem ofRatio_zero {den : Nat} (hden : den ≠ 0) (negative : Bool) :
    ofRatio negative 0 den = .finite negative ⟨0, -1074⟩ :=
  ofRatio_eq_zero hden (Nat.le_refl 400) negative (by rw [Nat.zero_mul]; exact Nat.zero_le den)

/-- The number of the digits of a decimal bounds it from both sides. -/
theorem pow_length_toDigits {n : Nat} (hn : n ≠ 0) :
    10 ^ ((Nat.toDigits 10 n).length - 1) ≤ n ∧ n < 10 ^ (Nat.toDigits 10 n).length := by
  have hpos : 0 < (Nat.toDigits 10 n).length := Nat.length_toDigits_pos
  refine ⟨?_, (Nat.length_toDigits_le_iff (by decide) hpos).1 (Nat.le_refl _)⟩
  rcases Nat.eq_zero_or_pos ((Nat.toDigits 10 n).length - 1) with hone | hmore
  · rw [hone]
    exact Nat.pos_of_ne_zero hn
  · have hle := (Nat.length_toDigits_le_iff (b := 10) (n := n) (by decide) hmore).not
    omega

/-- **A decimal is rounded once, wherever it lies.** -/
theorem ofDecimal_eq_ofScaled (negative : Bool) (n : Nat) (exponent : Int) :
    ofDecimal negative n exponent = ofScaled negative n exponent := by
  have hten (k : Nat) : (10 : Nat) ^ k ≠ 0 := (Nat.pow_pos (by decide)).ne'
  rw [ofDecimal, ofScaled]
  by_cases hn : n = 0
  · subst hn
    rw [if_pos (.inl rfl), ofRatio_zero Nat.one_ne_zero, Nat.zero_mul,
      ofRatio_zero Nat.one_ne_zero, ofRatio_zero (hten _), ite_self]
  · obtain ⟨hlow, hhigh⟩ := pow_length_toDigits hn
    obtain ⟨size, hsize⟩ : ∃ size, size = (Nat.toDigits 10 n).length := ⟨_, rfl⟩
    have hpos : 0 < size := hsize ▸ Nat.length_toDigits_pos
    rw [← hsize] at hlow hhigh ⊢
    simp only [hn, false_or]
    split
    · rename_i hsmall
      rw [ofRatio_zero Nat.one_ne_zero, if_neg (by omega)]
      refine (ofRatio_eq_zero (hten _) (k := (-exponent).toNat - size) (by omega) _ ?_).symm
      calc n * 10 ^ ((-exponent).toNat - size)
          ≤ 10 ^ size * 10 ^ ((-exponent).toNat - size) := Nat.mul_le_mul_right _ hhigh.le
        _ = 10 ^ (-exponent).toNat := by
            rw [← Nat.pow_add, Nat.add_sub_cancel' (by omega)]
    · split
      · rename_i hlarge
        split
        · refine (ofRatio_eq_infinite Nat.one_ne_zero (k := size - 1 + exponent.toNat) (by omega)
            _ ?_).symm
          rw [Nat.one_mul, Nat.pow_add]
          exact Nat.mul_le_mul_right _ hlow
        · refine (ofRatio_eq_infinite (hten _) (k := size - 1 - (-exponent).toNat) (by omega)
            _ ?_).symm
          rw [← Nat.pow_add, Nat.add_sub_cancel' (by omega)]
          exact hlow
      · rfl

end Number
end ContentBlocker
