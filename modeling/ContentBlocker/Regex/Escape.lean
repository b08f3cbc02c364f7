import ContentBlocker.Regex.Identifier
import ContentBlocker.Regex.Syntax

/-!
# Escapes

What a backslash and the characters after it stand for.  The rules are those of the web: an escape
that is not well formed is not an error where it can be read as something else.

* A number is a back-reference if the expression has that many groups, and otherwise the octal
  code of a character, or the digit itself if it is not octal.
* `\x` and `\u` without their two or four hexadecimal digits are the letters themselves.
* `\c` without a letter is a backslash, and the `c` after it stands for itself.
* `\k` has to name a group.
* Any other character stands for itself.

In a set between square brackets a number is never a back-reference, `\b` is a backspace, `\B` is
an error, and `\c` may also stand before a digit or an underscore.
-/

set_option autoImplicit false
namespace ContentBlocker.Regex

open Text (digitsValue? isDigit readDigits length_readDigits)

/-- The class that a letter names. -/
def namedClass? (c : Char) : Option NamedClass :=
  match c with
  | 'd' => some ⟨.digit, false⟩
  | 'D' => some ⟨.digit, true⟩
  | 'w' => some ⟨.word, false⟩
  | 'W' => some ⟨.word, true⟩
  | 's' => some ⟨.space, false⟩
  | 'S' => some ⟨.space, true⟩
  | _ => none

/-- The control character that a letter stands for. -/
def controlCode? (c : Char) : Option Nat :=
  match c with
  | 't' => some 0x09
  | 'n' => some 0x0a
  | 'v' => some 0x0b
  | 'f' => some 0x0c
  | 'r' => some 0x0d
  | _ => none

/-! ## Numbers -/

/-- Reads the octal code of a character, which has at most three digits. -/
def readOctal (s : List Char) : Nat × List Char :=
  let digits := (s.take 3).takeWhile (isDigit 8)
  ((digitsValue? 8 digits).getD 0, s.drop digits.length)

/-- Reads an escape that starts with a digit, in an expression with so many groups. -/
def readDecimalEscape (groups : Nat) (c : Char) (rest : List Char) : Atom × List Char :=
  let n := (digitsValue? 10 (c :: rest.takeWhile (isDigit 10))).getD 0
  if c ≠ '0' ∧ n ≤ groups then
    (.reference (.number n), rest.dropWhile (isDigit 10))
  else if isDigit 8 c then
    let (code, rest) := readOctal (c :: rest)
    (.char code, rest)
  else
    (.char c.toNat, rest)

theorem length_readDecimalEscape (groups : Nat) (c : Char) (rest : List Char) :
    (readDecimalEscape groups c rest).2.length ≤ (c :: rest).length := by
  unfold readDecimalEscape
  have hdrop := (List.dropWhile_suffix (l := rest) (isDigit 10)).length_le
  have hoctal : (readOctal (c :: rest)).2.length ≤ (c :: rest).length := by
    simp [readOctal, List.length_drop]
  simp only
  split
  · simp only [List.length_cons]
    omega
  · split
    · exact hoctal
    · simp

/-! ## All escapes -/

/-- Reads an escape from behind its backslash, in an expression with so many groups. -/
def readEscape (groups : Nat) : List Char → Option (Atom × List Char)
  | [] => none
  | c :: rest =>
    if isDigit 10 c then
      some (readDecimalEscape groups c rest)
    else if let some k := namedClass? c then
      some (.named k, rest)
    else if let some code := controlCode? c then
      some (.char code, rest)
    else if c = 'c' then
      match rest with
      | d :: rest' =>
        if d.isAlpha then some (.char (d.toNat % 32), rest') else some (.char 92, c :: rest)
      | [] => some (.char 92, c :: rest)
    else if c = 'x' then
      some (((readDigits 16 2 rest).map fun (code, rest) => (.char code, rest)).getD
        (.char c.toNat, rest))
    else if c = 'u' then
      some (((readDigits 16 4 rest).map fun (code, rest) => (.char code, rest)).getD
        (.char c.toNat, rest))
    else if c = 'k' then
      match rest with
      | '<' :: rest' => (readName rest').map fun (name, rest) => (.reference (.name name), rest)
      | _ => none
    else
      some (.char c.toNat, rest)

/-- The reading of digits, or else the letter before them, leaves no more than what stood there. -/
private theorem length_getD_readDigits (base count : Nat) (c : Char) (s : List Char) :
    (((readDigits base count s).map fun (p : Nat × List Char) => (Atom.char p.1, p.2)).getD
      (Atom.char c.toNat, s)).2.length ≤ s.length := by
  cases h : readDigits base count s with
  | none => simp
  | some p =>
    obtain ⟨n, rest⟩ := p
    simpa using length_readDigits h

theorem length_readEscape {groups : Nat} {s rest : List Char} {a : Atom}
    (h : readEscape groups s = some (a, rest)) : rest.length ≤ s.length := by
  cases s with
  | nil => simp [readEscape] at h
  | cons c s =>
    unfold readEscape at h
    dsimp only at h
    split at h
    · have hle := length_readDecimalEscape groups c s
      rw [Option.some.inj h] at hle
      exact hle
    · split at h
      · cases h; simp
      · split at h
        · cases h; simp
        · split at h
          · split at h
            · split at h <;> cases h <;> simp [Nat.le_succ_of_le]
            · cases h; simp
          · split at h
            · have hle := length_getD_readDigits 16 2 c s
              rw [Option.some.inj h] at hle
              exact Nat.le_succ_of_le hle
            · split at h
              · have hle := length_getD_readDigits 16 4 c s
                rw [Option.some.inj h] at hle
                exact Nat.le_succ_of_le hle
              · split at h
                · split at h
                  · obtain ⟨⟨_, _⟩, hp, hq⟩ := Option.map_eq_some_iff.1 h
                    have hle := length_readName hp
                    cases hq
                    simp only [List.length_cons]
                    omega
                  · cases h
                · cases h; simp

end ContentBlocker.Regex
