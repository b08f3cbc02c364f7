/-!
# Numbers in 64 bits

A limit is written by people and may be any numeral, so it is held as the number that 64-bit binary
floating point gives for it: a sign and a magnitude `significand · 2 ^ exponent`, an infinity, or
nothing.  All arithmetic here is exact, on natural numbers; `Magnitude.nearest` rounds a quotient to
the magnitude nearest to it, and a tie to the one with an even significand.
-/

set_option autoImplicit false
namespace ContentBlocker

/-- A magnitude in 64-bit floating point, which stands for `significand · 2 ^ exponent`.  Among the
ways to write a magnitude it is the one with the least exponent that keeps the significand below
`2 ^ 53`, and the exponent is at least -1074. -/
structure Magnitude where
  significand : Nat
  exponent : Int
  deriving DecidableEq, Inhabited

/-- A number in 64-bit floating point. -/
inductive Number where
  /-- What a text that is no numeral stands for. -/
  | notANumber
  | infinite (negative : Bool)
  | finite (negative : Bool) (magnitude : Magnitude)
  deriving DecidableEq, Inhabited

namespace Magnitude

/-- The quotient of two numbers, rounded to the nearest integer, a tie to the even one. -/
def roundedQuotient (num den : Nat) : Nat :=
  let q := num / den
  let r := num % den
  if 2 * r < den then q
  else if den < 2 * r then q + 1
  else if q % 2 = 0 then q else q + 1

/-- The rounded quotient is at most half away from the quotient. -/
theorem roundedQuotient_near (num : Nat) {den : Nat} (hden : 0 < den) :
    2 * num ≤ (2 * roundedQuotient num den + 1) * den ∧
      2 * (roundedQuotient num den * den) ≤ 2 * num + den := by
  have hdiv : den * (num / den) + num % den = num := Nat.div_add_mod num den
  have hmod := Nat.mod_lt num hden
  simp only [roundedQuotient]
  generalize num / den = q at *
  generalize num % den = r at *
  have hq : (2 * q + 1) * den = 2 * (den * q) + den := by
    rw [Nat.add_mul, Nat.mul_assoc, Nat.mul_comm q den, Nat.one_mul]
  have hs : (2 * (q + 1) + 1) * den = 2 * (den * q) + 3 * den := by
    rw [Nat.mul_add, Nat.add_mul, Nat.add_mul, Nat.mul_assoc, Nat.mul_comm q den, Nat.one_mul]
    omega
  have hq' : q * den = den * q := Nat.mul_comm _ _
  have hs' : (q + 1) * den = den * q + den := by rw [Nat.add_mul, Nat.mul_comm q, Nat.one_mul]
  split
  · rw [hq, hq']; omega
  · split
    · rw [hs, hs']; omega
    · split
      · rw [hq, hq']; omega
      · rw [hs, hs']; omega

/-- `num / den` in units of `2 ^ exponent`, as a quotient. -/
def inUnits (num den : Nat) (exponent : Int) : Nat × Nat :=
  if 0 ≤ exponent then (num, den * Nat.pow 2 exponent.toNat)
  else (num * Nat.pow 2 (-exponent).toNat, den)

/-- The magnitude nearest to `num / den`, a tie going to the even significand; nothing if it is too
large to be written. -/
def nearest (num den : Nat) : Option Magnitude :=
  let guess : Int := if num = 0 then -1074 else max ((num.log2 : Int) - den.log2 - 53) (-1074)
  let (n, d) := inUnits num den guess
  let exponent := if n / d < Nat.pow 2 53 then guess else guess + 1
  let (n, d) := inUnits num den exponent
  let significand := roundedQuotient n d
  let rounded : Magnitude :=
    if significand < Nat.pow 2 53 then ⟨significand, exponent⟩ else ⟨Nat.pow 2 52, exponent + 1⟩
  if rounded.exponent ≤ 971 then some rounded else none

/-- A magnitude as a quotient. -/
def ratio (x : Magnitude) : Nat × Nat :=
  if 0 ≤ x.exponent then (x.significand * Nat.pow 2 x.exponent.toNat, 1)
  else (x.significand, Nat.pow 2 (-x.exponent).toNat)

example : nearest 1 1 = some ⟨Nat.pow 2 52, -52⟩ := by decide
example : nearest (Nat.pow 2 53 + 1) 1 = some ⟨Nat.pow 2 52, 1⟩ := by decide

end Magnitude

namespace Number

/-- The number of a sign and a magnitude given as a quotient. -/
def ofRatio (negative : Bool) (num den : Nat) : Number :=
  match Magnitude.nearest num den with
  | some x => .finite negative x
  | none => .infinite negative

/-- The number of a natural number, which is exact below `2 ^ 53`. -/
def ofNat (n : Nat) : Number :=
  ofRatio false n 1

/-- The natural number that a number is, if it is one.  Zero is one whatever its sign. -/
def toNat? : Number → Option Nat
  | .finite negative x =>
    let (num, den) := x.ratio
    if num % den = 0 ∧ (negative = false ∨ num = 0) then some (num / den) else none
  | _ => none

end Number
end ContentBlocker
