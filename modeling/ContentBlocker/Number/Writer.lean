import ContentBlocker.Number.Basic

/-!
# Writing numbers

A number is written with the fewest significant digits that read back as it, and of the decimals
with that many digits that read back, the nearest one.  From 10 ^ -6 up to below 10 ^ 21 it is
written positionally, otherwise with an exponent that has a sign.  A zero has no sign.
-/

set_option autoImplicit false
namespace ContentBlocker

/-- A decimal `0.d₁d₂… · 10 ^ point`, where `digits` has the digits `d₁d₂…` as a whole number. -/
structure Decimal where
  digits : Nat
  point : Int
  deriving DecidableEq

namespace Magnitude

/-- How many decimal digits `num / den` has before its point; where it is below one, less the
number of zeros right after the point.  The number bounds how many zeros there may be. -/
def pointOf (num den : Nat) : Nat → Int
  | 0 => 0
  | zeros + 1 =>
    if num < den then pointOf (10 * num) den zeros - 1
    else (Nat.toDigits 10 (num / den)).length

/-- `num / den` in units of `10 ^ exponent`, as a quotient. -/
def inTens (num den : Nat) (exponent : Int) : Nat × Nat :=
  if 0 ≤ exponent then (num, den * Nat.pow 10 exponent.toNat)
  else (num * Nat.pow 10 (-exponent).toNat, den)

/-- The magnitude nearest to `digits · 10 ^ exponent`. -/
def ofTens (digits : Nat) (exponent : Int) : Option Magnitude :=
  if 0 ≤ exponent then nearest (digits * Nat.pow 10 exponent.toNat) 1
  else nearest digits (Nat.pow 10 (-exponent).toNat)

/-- The decimal with `count` digits that reads back as `x`, if there is one: of the two neighbours
of `x` on the grid of such decimals, those are tried that read back, and the nearer is taken. -/
def decimalOfLength? (x : Magnitude) (point : Int) (count : Nat) : Option Nat :=
  let (num, den) := x.ratio
  let (n, d) := inTens num den (point - count)
  let below := n / d
  let readsBack (digits : Nat) : Bool := ofTens digits (point - count) == some x
  let near := roundedQuotient n d
  let far := if near = below then below + 1 else below
  if readsBack near then some near else if readsBack far then some far else none

/-- The decimal with the fewest digits that reads back as `x`, tried from `count` digits on. -/
def shortestFrom (x : Magnitude) (point : Int) (count : Nat) : Nat → Nat × Nat
  | 0 => (0, count)
  | more + 1 =>
    match decimalOfLength? x point count with
    | some digits => (digits, count)
    | none => shortestFrom x point (count + 1) more

/-- The decimal with the fewest digits that reads back as `x`.  Seventeen always suffice. -/
def shortest (x : Magnitude) : Decimal :=
  let (num, den) := x.ratio
  let point := pointOf num den 400
  let (digits, count) := shortestFrom x point 1 17
  if digits = Nat.pow 10 count then ⟨1, point + 1⟩ else ⟨digits, point⟩

end Magnitude

namespace Decimal

/-- The digits of a decimal from the first to the last that is not zero. -/
def significant (x : Decimal) : List Char :=
  ((Nat.toDigits 10 x.digits).reverse.dropWhile (· == '0')).reverse

/-- A decimal, positional where its point is near its digits and with an exponent elsewhere. -/
def chars (x : Decimal) : List Char :=
  let digits := x.significant
  let count : Int := digits.length
  if x.point ≤ 21 ∧ count ≤ x.point then
    digits ++ List.replicate (x.point - count).toNat '0'
  else if 0 < x.point ∧ x.point ≤ 21 then
    digits.take x.point.toNat ++ '.' :: digits.drop x.point.toNat
  else if -6 < x.point ∧ x.point ≤ 0 then
    '0' :: '.' :: List.replicate (-x.point).toNat '0' ++ digits
  else
    let exponent := x.point - 1
    let sign := if exponent < 0 then '-' else '+'
    digits.take 1 ++ (if digits.length = 1 then [] else '.' :: digits.drop 1) ++
      'e' :: sign :: Nat.toDigits 10 exponent.natAbs

end Decimal

namespace Number

/-- The text of a number. -/
def text : Number → String
  | .notANumber => "NaN"
  | .infinite negative => if negative then "-Infinity" else "Infinity"
  | .finite negative x =>
    if x.significand = 0 then "0"
    else String.ofList ((if negative then ['-'] else []) ++ x.shortest.chars)

end Number
end ContentBlocker
