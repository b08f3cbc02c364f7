/-!
# Finding and replacing a text within a text

`occursIn needle` looks for `needle` anywhere in a text; `pieces needle` cuts the text at its
occurrences, found from the left and never overlapping; `replaceChars` puts another text where they
were.  The main facts are that `occursIn` is the infix relation (`occursIn_iff`), that putting
`needle` back between the pieces restores the text (`intercalate_pieces`), and that there is more
than one piece where `needle` occurs (`one_lt_length_pieces`).

All of this is for a `needle` that is not empty.
-/

set_option autoImplicit false
namespace ContentBlocker.Text

/-- Whether `needle` stands somewhere in the text. -/
def occursIn (needle : List Char) : List Char → Bool
  | [] => needle.isEmpty
  | c :: text => needle.isPrefixOf (c :: text) || occursIn needle text

theorem occursIn_iff {needle text : List Char} :
    occursIn needle text = true ↔ needle <:+: text := by
  induction text with
  | nil => simp [occursIn]
  | cons c text ih => simp [occursIn, ih, List.infix_cons_iff]

/-- Cuts a text at the occurrences of `needle`.  The number says how many characters of the last
occurrence are still to be passed over, and the second list holds the piece so far, last character
first. -/
def piecesFrom (needle : List Char) : Nat → List Char → List Char → List (List Char)
  | _, piece, [] => [piece.reverse]
  | k + 1, piece, _ :: text => piecesFrom needle k piece text
  | 0, piece, c :: text =>
    if needle.isPrefixOf (c :: text) then
      piece.reverse :: piecesFrom needle (needle.length - 1) [] text
    else
      piecesFrom needle 0 (c :: piece) text

/-- What stands before, between and after the occurrences of `needle`. -/
def pieces (needle text : List Char) : List (List Char) :=
  piecesFrom needle 0 [] text

/-- The text with every occurrence of `needle` replaced. -/
def replaceChars (needle replacement text : List Char) : List Char :=
  replacement.intercalate (pieces needle text)

/-! ## Cutting loses nothing -/

theorem piecesFrom_ne_nil (needle : List Char) (k : Nat) (piece text : List Char) :
    piecesFrom needle k piece text ≠ [] := by
  induction text generalizing k piece with
  | nil => simp [piecesFrom]
  | cons c text ih =>
    cases k with
    | succ k => exact ih k piece
    | zero =>
      rw [piecesFrom]
      split
      · exact List.cons_ne_nil _ _
      · exact ih 0 _

theorem pieces_ne_nil (needle text : List Char) : pieces needle text ≠ [] :=
  piecesFrom_ne_nil needle 0 [] text

private theorem intercalate_piecesFrom (needle : List Char) (hne : needle ≠ []) (k : Nat)
    (piece text : List Char) (hk : k ≤ text.length) :
    needle.intercalate (piecesFrom needle k piece text) = piece.reverse ++ text.drop k := by
  induction text generalizing k piece with
  | nil =>
    obtain rfl : k = 0 := by simpa using hk
    simp [piecesFrom, List.intercalate]
  | cons c text ih =>
    cases k with
    | succ k => simpa [piecesFrom] using ih k piece (by simpa using hk)
    | zero =>
      rw [piecesFrom]
      split
      · rename_i hpre
        obtain ⟨rest, hrest⟩ := List.isPrefixOf_iff_prefix.1 hpre
        have hlen : needle.length - 1 ≤ text.length := by
          have := congrArg List.length hrest
          simp at this
          omega
        rw [List.intercalate_cons_of_ne_nil (piecesFrom_ne_nil _ _ _ _), ih _ _ hlen]
        cases needle with
        | nil => exact absurd rfl hne
        | cons d ds =>
          simp only [List.cons_append, List.cons.injEq] at hrest
          obtain ⟨rfl, rfl⟩ := hrest
          simp
      · rw [ih 0 (c :: piece) (Nat.zero_le _)]
        simp

/-- **Nothing is lost by cutting**: with the occurrences put back, the pieces are the text. -/
theorem intercalate_pieces {needle : List Char} (hne : needle ≠ []) (text : List Char) :
    needle.intercalate (pieces needle text) = text := by
  simpa [pieces] using intercalate_piecesFrom needle hne 0 [] text (Nat.zero_le _)

private theorem one_lt_length_piecesFrom {needle : List Char} (piece text : List Char)
    (hne : needle ≠ []) (h : occursIn needle text = true) :
    1 < (piecesFrom needle 0 piece text).length := by
  induction text generalizing piece with
  | nil => simp [occursIn, hne] at h
  | cons c text ih =>
    rw [piecesFrom]
    split
    · have := List.length_pos_iff.2 (piecesFrom_ne_nil needle (needle.length - 1) [] text)
      rw [List.length_cons]
      omega
    · rename_i hpre
      exact ih _ (by simpa [occursIn, hpre] using h)

theorem one_lt_length_pieces {needle text : List Char} (hne : needle ≠ [])
    (h : occursIn needle text = true) : 1 < (pieces needle text).length :=
  one_lt_length_piecesFrom [] text hne h

/-! ## Replacing by a shorter text -/

private theorem length_intercalate_lt {short long : List Char} (hlt : short.length < long.length)
    (xs : List (List Char)) (h : 1 < xs.length) :
    (short.intercalate xs).length < (long.intercalate xs).length := by
  induction xs with
  | nil => simp at h
  | cons x xs ih =>
    have hne : xs ≠ [] := by
      rintro rfl
      simp at h
    rw [List.intercalate_cons_of_ne_nil hne, List.intercalate_cons_of_ne_nil hne]
    simp only [List.length_append]
    cases xs with
    | nil => exact absurd rfl hne
    | cons y ys =>
      cases ys with
      | nil => simp [List.intercalate]; omega
      | cons z zs =>
        have := ih (by simp)
        omega

/-- Replacing something that occurs by something shorter shortens the text. -/
theorem length_replaceChars_lt {needle replacement text : List Char}
    (hlt : replacement.length < needle.length) (h : occursIn needle text = true) :
    (replaceChars needle replacement text).length < text.length := by
  have hne : needle ≠ [] := by
    rintro rfl
    simp at hlt
  have := length_intercalate_lt hlt _ (one_lt_length_pieces hne h)
  rwa [intercalate_pieces hne] at this

end ContentBlocker.Text
