import ContentBlocker.Text.Search

/-!
# Where a text can stand within another

A text that is put together from parts can be searched part by part, as long as it is known in which
parts an occurrence can start.  `Avoids needle s rest` says that none starts within `s` where `rest`
follows; an occurrence may start in `rest` all the same.  The parts of a text are looked at one by
one (`avoids_append`), a part without the first character of `needle` needs no look at all
(`avoids_of_not_mem`), and a longer needle is avoided wherever its start is (`Avoids.of_start`).

What is avoided is passed over by `pieces` and by `replaceChars`.  At an occurrence itself, `pieces`
starts another piece and `replaceChars` puts the replacement.
-/

set_option autoImplicit false
namespace ContentBlocker.Text

/-- No occurrence of `needle` starts within the second list where the third one follows it. -/
def Avoids (needle : List Char) : List Char → List Char → Prop
  | [], _ => True
  | c :: s, rest => ¬ needle <+: c :: (s ++ rest) ∧ Avoids needle s rest

section
variable {needle s t rest : List Char}

@[simp] theorem avoids_nil : Avoids needle [] rest :=
  trivial

theorem avoids_cons {c : Char} :
    Avoids needle (c :: s) rest ↔ ¬ needle <+: c :: (s ++ rest) ∧ Avoids needle s rest :=
  Iff.rfl

theorem avoids_append :
    Avoids needle (s ++ t) rest ↔ Avoids needle s (t ++ rest) ∧ Avoids needle t rest := by
  induction s with
  | nil => simp
  | cons c s ih => rw [List.cons_append, avoids_cons, avoids_cons, ih, List.append_assoc, and_assoc]

/-- An occurrence cannot start at a character other than the first one of `needle`. -/
theorem avoids_cons_of_ne {c d : Char} (h : c ≠ d) :
    Avoids (d :: needle) (c :: s) rest ↔ Avoids (d :: needle) s rest := by
  rw [avoids_cons, List.cons_prefix_cons]
  simp [h.symm]

theorem avoids_of_not_mem {d : Char} (h : d ∉ s) : Avoids (d :: needle) s rest := by
  induction s with
  | nil => exact avoids_nil
  | cons c s ih =>
    rw [List.mem_cons, not_or] at h
    exact (avoids_cons_of_ne fun hcd => h.1 hcd.symm).2 (ih h.2)

/-- Where the start of `needle` does not stand, `needle` does not stand either. -/
theorem Avoids.of_start {start : List Char} (hstart : start <+: needle)
    (h : Avoids start s rest) : Avoids needle s rest := by
  induction s with
  | nil => exact avoids_nil
  | cons c s ih => exact ⟨fun hn => h.1 (hstart.trans hn), ih h.2⟩

/-! ## Finding -/

/-- An occurrence starts behind what avoids it. -/
theorem Avoids.eq_append_of_eq (h : Avoids needle s rest) {before after : List Char}
    (heq : s ++ rest = before ++ needle ++ after) :
    ∃ before', before = s ++ before' ∧ rest = before' ++ needle ++ after := by
  induction s generalizing before with
  | nil => exact ⟨before, rfl, heq⟩
  | cons c s ih =>
    cases before with
    | nil => exact absurd ⟨after, heq.symm⟩ h.1
    | cons d before =>
      rw [List.cons_append, List.cons_append, List.cons_append, List.cons.injEq] at heq
      obtain ⟨before', rfl, hrest⟩ := ih h.2 heq.2
      exact ⟨before', by rw [heq.1]; rfl, hrest⟩

/-- What does not occur in a text does not occur in a part of it. -/
theorem not_occursIn_of_infix (hpart : s <:+: t) (h : occursIn needle t = false) :
    occursIn needle s = false := by
  refine Bool.eq_false_iff.2 fun hocc => ?_
  rw [occursIn_iff.2 ((occursIn_iff.1 hocc).trans hpart)] at h
  cases h

/-- The number of places in a text at which `needle` stands, one within another included. -/
def placeCount (needle : List Char) : List Char → Nat
  | [] => 0
  | c :: text => (if needle.isPrefixOf (c :: text) then 1 else 0) + placeCount needle text

theorem placeCount_append_of_avoids (h : Avoids needle s rest) :
    placeCount needle (s ++ rest) = placeCount needle rest := by
  induction s with
  | nil => rfl
  | cons c s ih =>
    have hc : ¬ needle.isPrefixOf (c :: (s ++ rest)) = true := by
      rw [List.isPrefixOf_iff_prefix]
      exact h.1
    rw [List.cons_append, placeCount, if_neg hc, Nat.zero_add, ih h.2]

/-- At an occurrence within which no other starts, there is one more place. -/
theorem placeCount_self_append {c : Char} (h : Avoids (c :: needle) needle rest) :
    placeCount (c :: needle) (c :: needle ++ rest) = placeCount (c :: needle) rest + 1 := by
  have hpre : (c :: needle).isPrefixOf (c :: (needle ++ rest)) = true :=
    List.isPrefixOf_iff_prefix.2 (List.prefix_append (c :: needle) rest)
  rw [List.cons_append, placeCount, if_pos hpre, placeCount_append_of_avoids h, Nat.add_comm]

/-! ## Cutting -/

/-- The piece that has been read so far becomes the start of the first piece. -/
private theorem piecesFrom_eq_modifyHead (needle : List Char) (k : Nat) (piece text : List Char) :
    piecesFrom needle k piece text =
      (piecesFrom needle k [] text).modifyHead (piece.reverse ++ ·) := by
  induction text generalizing k piece with
  | nil => simp [piecesFrom]
  | cons c text ih =>
    cases k with
    | succ k => rw [piecesFrom, piecesFrom, ih]
    | zero =>
      rw [piecesFrom, piecesFrom]
      split
      · simp
      · rw [ih 0 (c :: piece), ih 0 [c], List.modifyHead_modifyHead]
        simp [Function.comp_def]

theorem pieces_append_of_avoids (h : Avoids needle s rest) :
    pieces needle (s ++ rest) = (pieces needle rest).modifyHead (s ++ ·) := by
  have hpass : ∀ piece, piecesFrom needle 0 piece (s ++ rest) =
      piecesFrom needle 0 (s.reverse ++ piece) rest := by
    induction s with
    | nil => intro piece; rfl
    | cons c s ih =>
      intro piece
      have hc : ¬ needle.isPrefixOf (c :: (s ++ rest)) = true := by
        rw [List.isPrefixOf_iff_prefix]
        exact h.1
      rw [List.cons_append, piecesFrom, if_neg hc, ih h.2, List.reverse_cons, List.append_assoc,
        List.singleton_append]
  rw [pieces, hpass, List.append_nil, piecesFrom_eq_modifyHead, List.reverse_reverse, pieces]

private theorem piecesFrom_skip (needle piece skipped rest : List Char) :
    piecesFrom needle skipped.length piece (skipped ++ rest) = piecesFrom needle 0 piece rest := by
  induction skipped with
  | nil => rfl
  | cons c skipped ih => rw [List.length_cons, List.cons_append, piecesFrom, ih]

/-- At an occurrence the piece before it ends. -/
theorem pieces_self_append (hne : needle ≠ []) :
    pieces needle (needle ++ rest) = [] :: pieces needle rest := by
  cases needle with
  | nil => exact absurd rfl hne
  | cons c needle =>
    have hpre : (c :: needle).isPrefixOf (c :: (needle ++ rest)) = true :=
      List.isPrefixOf_iff_prefix.2 (List.prefix_append (c :: needle) rest)
    rw [pieces, List.cons_append, piecesFrom, if_pos hpre, List.length_cons, Nat.add_sub_cancel,
      piecesFrom_skip]
    rfl

/-! ## Replacing -/

private theorem intercalate_modifyHead_append (sep x : List Char) {xs : List (List Char)}
    (hne : xs ≠ []) : sep.intercalate (xs.modifyHead (x ++ ·)) = x ++ sep.intercalate xs := by
  cases xs with
  | nil => exact absurd rfl hne
  | cons y ys => cases ys <;> simp

theorem replaceChars_append_of_avoids (replacement : List Char) (h : Avoids needle s rest) :
    replaceChars needle replacement (s ++ rest) = s ++ replaceChars needle replacement rest := by
  rw [replaceChars, pieces_append_of_avoids h,
    intercalate_modifyHead_append _ _ (pieces_ne_nil needle rest), replaceChars]

theorem replaceChars_self_append (replacement : List Char) (hne : needle ≠ []) :
    replaceChars needle replacement (needle ++ rest) =
      replacement ++ replaceChars needle replacement rest := by
  rw [replaceChars, pieces_self_append hne,
    List.intercalate_cons_of_ne_nil (pieces_ne_nil needle rest), List.nil_append, replaceChars]

/-- Cutting out is replacing by nothing. -/
theorem flatten_pieces (needle text : List Char) :
    (pieces needle text).flatten = replaceChars needle [] text := by
  rw [replaceChars]
  induction pieces needle text with
  | nil => rfl
  | cons x xs ih =>
    cases xs with
    | nil => simp
    | cons y ys => rw [List.flatten_cons, ih, List.intercalate_cons_cons, List.append_nil]

end
end ContentBlocker.Text
