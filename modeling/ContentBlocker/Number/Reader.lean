import ContentBlocker.Number.Basic
import ContentBlocker.Text.Blank
import ContentBlocker.Text.Digits

/-!
# Reading numerals

A numeral is a decimal one, with an optional sign, a point, and an exponent; or a whole number to
the base 2, 8 or 16, marked `0b`, `0o` or `0x` and without a sign; or `Infinity`, with an optional
sign.  Blanks around it do not count, and a text of blanks only is zero.  Any other text is no
number.

A decimal numeral is read exactly and rounded once.
-/

set_option autoImplicit false
namespace ContentBlocker.Number

open Text (digitsValue?)

/-- Takes a sign off; `true` is a minus. -/
def splitSign : List Char → Bool × List Char
  | '-' :: rest => (true, rest)
  | '+' :: rest => (false, rest)
  | s => (false, s)

/-- The value of what follows the digits of a decimal numeral: nothing, or a letter and a whole
number with an optional sign. -/
def exponent? : List Char → Option Int
  | [] => some 0
  | c :: rest =>
    if c = 'e' ∨ c = 'E' then
      let (negative, digits) := splitSign rest
      (digitsValue? 10 digits).map fun n => if negative then -(n : Int) else n
    else
      none

/-- The number `digits · 10 ^ exponent`.  Far outside the range of magnitudes the power is not
computed: the number is infinite there, or zero. -/
def ofDecimal (negative : Bool) (digits : Nat) (exponent : Int) : Number :=
  let size : Int := (Nat.toDigits 10 digits).length
  if digits = 0 ∨ size + exponent < -400 then ofRatio negative 0 1
  else if 400 < size + exponent then .infinite negative
  else if 0 ≤ exponent then ofRatio negative (digits * Nat.pow 10 exponent.toNat) 1
  else ofRatio negative digits (Nat.pow 10 (-exponent).toNat)

/-- The number that a decimal numeral without a sign writes. -/
def ofUnsigned (negative : Bool) (s : List Char) : Number :=
  let whole := s.takeWhile (Text.isDigit 10)
  let rest := s.dropWhile (Text.isDigit 10)
  let (fraction, rest) :=
    match rest with
    | '.' :: r => (r.takeWhile (Text.isDigit 10), r.dropWhile (Text.isDigit 10))
    | r => ([], r)
  match digitsValue? 10 (whole ++ fraction), exponent? rest with
  | some digits, some exponent => ofDecimal negative digits (exponent - fraction.length)
  | _, _ => .notANumber

/-- The number that digits to a base of two, eight or sixteen write. -/
def ofBase (base : Nat) (digits : List Char) : Number :=
  match digitsValue? base digits with
  | some n => ofRatio false n 1
  | none => .notANumber

/-- The number that characters write. -/
def ofChars (s : List Char) : Number :=
  match Text.trimChars s with
  | [] => ofRatio false 0 1
  | '0' :: 'x' :: digits => ofBase 16 digits
  | '0' :: 'X' :: digits => ofBase 16 digits
  | '0' :: 'o' :: digits => ofBase 8 digits
  | '0' :: 'O' :: digits => ofBase 8 digits
  | '0' :: 'b' :: digits => ofBase 2 digits
  | '0' :: 'B' :: digits => ofBase 2 digits
  | s =>
    let (negative, rest) := splitSign s
    if rest = "Infinity".toList then .infinite negative else ofUnsigned negative rest

/-- The number that a text writes. -/
def ofText (s : String) : Number :=
  ofChars s.toList

end ContentBlocker.Number
