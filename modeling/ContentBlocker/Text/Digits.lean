/-!
# Digits

The numbers that digits write, to any base up to sixteen.  Letters are digits in either case.
-/

set_option autoImplicit false
namespace ContentBlocker.Text

/-- The value of a digit to a base of at most sixteen. -/
def digitValue? (base : Nat) (c : Char) : Option Nat :=
  let n := c.toNat
  let value :=
    if 0x30 ≤ n ∧ n ≤ 0x39 then n - 0x30
    else if 0x41 ≤ n ∧ n ≤ 0x46 then n - 0x37
    else if 0x61 ≤ n ∧ n ≤ 0x66 then n - 0x57
    else base
  if value < base then some value else none

/-- Whether a character is a digit to a base of at most sixteen. -/
def isDigit (base : Nat) (c : Char) : Bool :=
  (digitValue? base c).isSome

/-- The number that a text writes, if it is one digit or more and nothing else. -/
def digitsValue? (base : Nat) : List Char → Option Nat
  | [] => none
  | digits => digits.foldlM (fun n c => (digitValue? base c).map (base * n + ·)) 0

/-- The number that the first `count` characters write, if they are digits, and what is left. -/
def readDigits (base count : Nat) (s : List Char) : Option (Nat × List Char) :=
  if count ≤ s.length then (digitsValue? base (s.take count)).map fun n => (n, s.drop count)
  else none

example : digitsValue? 16 ['1', 'f', 'A'] = some 0x1fa := by decide
example : digitsValue? 8 ['8'] = none := by decide

theorem length_readDigits {base count n : Nat} {s rest : List Char}
    (h : readDigits base count s = some (n, rest)) : rest.length ≤ s.length := by
  simp only [readDigits] at h
  split at h
  · obtain ⟨m, -, hm⟩ := Option.map_eq_some_iff.1 h
    simp only [Prod.mk.injEq] at hm
    rw [← hm.2, List.length_drop]
    omega
  · simp at h

theorem isDigit_ten (c : Char) : isDigit 10 c = c.isDigit := by
  rw [isDigit, digitValue?, Char.isDigit]
  by_cases hdigit : 0x30 ≤ c.toNat ∧ c.toNat ≤ 0x39
  · have hval : c.val ≥ 48 ∧ c.val ≤ 57 := hdigit
    have hlt : c.toNat - 0x30 < 10 := by omega
    simp [hdigit, hval, hlt]
  · have hval : ¬ (c.val ≥ 48 ∧ c.val ≤ 57) := hdigit
    have hvalue : ¬ (if 0x41 ≤ c.toNat ∧ c.toNat ≤ 0x46 then c.toNat - 0x37
        else if 0x61 ≤ c.toNat ∧ c.toNat ≤ 0x66 then c.toNat - 0x57 else 10) < 10 := by
      split
      · omega
      · split <;> omega
    rw [if_neg hdigit, if_neg hvalue]
    simpa using hval

end ContentBlocker.Text
