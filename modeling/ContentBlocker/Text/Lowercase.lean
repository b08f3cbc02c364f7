import ContentBlocker.Text.LetterCase

/-!
# Lower case

Domains, modifier names and selectors are compared in lower case, by the mapping that Unicode gives
without regard to language.  It goes character by character with two exceptions: a dotted capital I
becomes an i and a combining dot, and a capital sigma at the end of a word becomes a final sigma.
-/

set_option autoImplicit false
namespace ContentBlocker.Text

/-- The lower-case form of a letter where it has one of a single character, and otherwise the
character itself. -/
def lowerChar (c : Char) : Char :=
  let n := c.toNat
  if n < 0x80 then
    c.toLower
  else
    match lowercaseRuns.find? fun (first, last, step, _) =>
        first ≤ n && n ≤ last && (n - first) % step == 0 with
    | some (first, _, _, lower) => Char.ofNat (lower + (n - first))
    | none => c

/-- Whether the first of the characters that is not case-ignorable is a cased letter. -/
def meetsCased (s : List Char) : Bool :=
  match s.dropWhile caseIgnorableRanges.contains with
  | [] => false
  | c :: _ => casedRanges.contains c

/-- The lower-case form of one character, given those before it (nearest first) and after it. -/
def lowerAt (before : List Char) (c : Char) (after : List Char) : List Char :=
  if c = 'Σ' then
    if meetsCased before && !meetsCased after then ['ς'] else ['σ']
  else if c = 'İ' then
    ['i', '\u0307']
  else
    [lowerChar c]

/-- Lower-cases the second list, which follows the first (nearest first) in the text. -/
def lowerFrom (before : List Char) : List Char → List Char
  | [] => []
  | c :: after => lowerAt before c after ++ lowerFrom (c :: before) after

/-- The characters of a text in lower case. -/
def lowerChars (s : List Char) : List Char :=
  lowerFrom [] s

/-- A text in lower case. -/
def lower (s : String) : String :=
  String.ofList (lowerChars s.toList)

@[simp] theorem toList_lower (s : String) : (lower s).toList = lowerChars s.toList := by
  simp [lower]

theorem lowerAt_ne_nil (before : List Char) (c : Char) (after : List Char) :
    lowerAt before c after ≠ [] := by
  rw [lowerAt]
  split
  · split <;> exact List.cons_ne_nil _ _
  · split <;> exact List.cons_ne_nil _ _

/-- No character is lost in lower case. -/
theorem lowerChars_eq_nil_iff {s : List Char} : lowerChars s = [] ↔ s = [] := by
  cases s with
  | nil => exact Iff.rfl
  | cons c s =>
    refine iff_of_false (fun h => ?_) (List.cons_ne_nil c s)
    exact lowerAt_ne_nil [] c s (List.append_eq_nil_iff.1 h).1

/-! ## Lower case of ASCII -/

theorem lowerAt_of_ascii {before after : List Char} {c : Char} (h : c.toNat < 0x80) :
    lowerAt before c after = [c.toLower] := by
  have hsigma : c ≠ 'Σ' := by rintro rfl; simp at h
  have hdotted : c ≠ 'İ' := by rintro rfl; simp at h
  simp [lowerAt, lowerChar, hsigma, hdotted, h]

private theorem lowerFrom_of_ascii {before s : List Char} (h : ∀ c ∈ s, c.toNat < 0x80) :
    lowerFrom before s = s.map Char.toLower := by
  induction s generalizing before with
  | nil => rfl
  | cons c s ih =>
    rw [lowerFrom, lowerAt_of_ascii (h c List.mem_cons_self),
      ih fun d hd => h d (List.mem_cons_of_mem _ hd)]
    rfl

/-- Within ASCII each letter is lower-cased on its own. -/
theorem lowerChars_of_ascii {s : List Char} (h : ∀ c ∈ s, c.toNat < 0x80) :
    lowerChars s = s.map Char.toLower :=
  lowerFrom_of_ascii h

end ContentBlocker.Text
