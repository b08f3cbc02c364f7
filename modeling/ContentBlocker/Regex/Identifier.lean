import ContentBlocker.Regex.IdentifierRanges
import ContentBlocker.Text.Digits

/-!
# Names of groups

A name is an identifier followed by `>`: it starts with a letter, a dollar sign or an underscore,
and goes on with those, digits, marks, connectors and the two joiners.  Any of its characters may
be written as an escape `\uHHHH` or `\u{H…}`; two escapes in a row that write a pair of surrogates
are one character.
-/

set_option autoImplicit false
namespace ContentBlocker.Regex

open Text (CharRanges digitsValue? isDigit readDigits length_readDigits)

/-- Whether a code point may start a name. -/
def isNameStart (code : Nat) : Bool :=
  code == 0x24 || code == 0x5f || (0x41 ≤ code && code ≤ 0x5a) || (0x61 ≤ code && code ≤ 0x7a) ||
    (0x80 ≤ code && code.isValidChar && identifierStartRanges.contains (Char.ofNat code))

/-- Whether a code point may stand in a name after the first. -/
def isNamePart (code : Nat) : Bool :=
  isNameStart code || (0x30 ≤ code && code ≤ 0x39) || code == 0x200c || code == 0x200d ||
    (0x80 ≤ code && code.isValidChar && identifierContinueRanges.contains (Char.ofNat code))

/-! ## Names -/

/-- Reads the escape of a character of a name from behind its `\u`. -/
def readNameEscape (s : List Char) : Option (Nat × List Char) :=
  match s with
  | '\x7b' :: r =>
    match digitsValue? 16 (r.takeWhile (isDigit 16)), r.dropWhile (isDigit 16) with
    | some n, '\x7d' :: rest => if n ≤ 0x10ffff then some (n, rest) else none
    | _, _ => none
  | s =>
    match readDigits 16 4 s with
    | none => none
    | some (high, rest) =>
      match rest with
      | '\\' :: 'u' :: r =>
        match readDigits 16 4 r with
        | some (low, rest') =>
          if 0xd800 ≤ high ∧ high < 0xdc00 ∧ 0xdc00 ≤ low ∧ low < 0xe000 then
            some (0x10000 + (high - 0xd800) * 0x400 + (low - 0xdc00), rest')
          else
            some (high, rest)
        | none => some (high, rest)
      | _ => some (high, rest)

theorem length_readNameEscape {s rest : List Char} {n : Nat}
    (h : readNameEscape s = some (n, rest)) : rest.length ≤ s.length := by
  unfold readNameEscape at h
  split at h
  · rename_i r
    have hdrop := (List.dropWhile_suffix (l := r) (isDigit 16)).length_le
    split at h
    · rename_i hrest
      rw [hrest] at hdrop
      split at h
      · simp only [Option.some.injEq, Prod.mk.injEq] at h
        simp only [List.length_cons] at hdrop ⊢
        rw [← h.2]
        omega
      · simp at h
    · simp at h
  · split at h
    · simp at h
    · rename_i high left hhigh
      have hle := length_readDigits hhigh
      split at h
      · rename_i r
        split at h
        · rename_i low left' hlow
          have hle' := length_readDigits hlow
          simp only [List.length_cons] at hle
          split at h <;>
            (simp only [Option.some.injEq, Prod.mk.injEq] at h; rw [← h.2])
          · omega
          · simpa using hle
        · simp only [Option.some.injEq, Prod.mk.injEq] at h
          rw [← h.2]
          exact hle
      · simp only [Option.some.injEq, Prod.mk.injEq] at h
        rw [← h.2]
        exact hle

/-- Reads one character of a name, as it is or escaped. -/
def readNameChar : List Char → Option (Nat × List Char)
  | [] => none
  | '\\' :: 'u' :: rest => readNameEscape rest
  | c :: rest => some (c.toNat, rest)

theorem length_readNameChar {s rest : List Char} {n : Nat}
    (h : readNameChar s = some (n, rest)) : rest.length < s.length := by
  unfold readNameChar at h
  split at h
  · simp at h
  · have := length_readNameEscape h
    simp only [List.length_cons]
    omega
  · simp only [Option.some.injEq, Prod.mk.injEq] at h
    rw [← h.2]
    simp

/-- Reads the rest of a name and the `>` after it.  The list holds the name so far, last character
first. -/
def readNameFrom (codes : List Nat) (s : List Char) : Option (List Nat × List Char) :=
  match s with
  | '>' :: rest => if codes.isEmpty then none else some (codes.reverse, rest)
  | s =>
    match _h : readNameChar s with
    | some (code, rest) =>
      if (if codes.isEmpty then isNameStart code else isNamePart code) then
        readNameFrom (code :: codes) rest
      else
        none
    | none => none
termination_by s.length
decreasing_by exact length_readNameChar _h

/-- Reads a name and the `>` after it. -/
def readName (s : List Char) : Option (List Nat × List Char) :=
  readNameFrom [] s

theorem length_readNameFrom {codes name : List Nat} {s rest : List Char}
    (h : readNameFrom codes s = some (name, rest)) : rest.length ≤ s.length := by
  fun_induction readNameFrom codes s with
  | case1 => simp at h
  | case2 =>
    simp only [Option.some.injEq, Prod.mk.injEq] at h
    rw [← h.2]
    simp
  | case3 codes s hs code rest' hchar _ ih =>
    have := length_readNameChar hchar
    have := ih h
    omega
  | case4 => simp at h
  | case5 => simp at h

theorem length_readName {name : List Nat} {s rest : List Char}
    (h : readName s = some (name, rest)) : rest.length ≤ s.length :=
  length_readNameFrom h

end ContentBlocker.Regex
