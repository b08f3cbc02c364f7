import ContentBlocker.Text.Lines

/-!
# Pieces of a text

What a text is made of apart from its separators are the characters of its pieces, so there is no
separator in a piece (`not_mem_of_mem_splitOn`).  The lines of a text are its pieces between line
feeds but for the carriage returns at their ends: there is one more of them than there are line
feeds, and no line feed in any.
-/

set_option autoImplicit false
namespace ContentBlocker

/-- What the pieces of a text are made of is all that the text is made of but the separator. -/
theorem forall_mem_splitOn_iff {c : Char} {p : Char → Prop} {s : List Char} :
    (∀ piece ∈ s.splitOn c, ∀ d ∈ piece, p d) ↔ ∀ d ∈ s, d = c ∨ p d := by
  induction s with
  | nil => simp
  | cons d s ih =>
    rw [List.splitOn_cons_eq_if_modifyHead, List.forall_mem_cons, ← ih]
    split
    · rename_i hd
      simp [beq_iff_eq.1 hd]
    · rename_i hd
      obtain ⟨first, rest, hsplit⟩ := List.exists_cons_of_ne_nil (List.splitOn_ne_nil c s)
      have hd : d ≠ c := fun heq => hd (beq_iff_eq.2 heq)
      simp [hsplit, hd, and_assoc]

theorem not_mem_of_mem_splitOn {c : Char} {s piece : List Char} (h : piece ∈ s.splitOn c) :
    c ∉ piece := by
  have hpieces : ∀ piece ∈ s.splitOn c, ∀ d ∈ piece, d ≠ c :=
    forall_mem_splitOn_iff.2 fun d _ => Decidable.em (d = c)
  exact fun hmem => hpieces piece h c hmem rfl

namespace Text

/-- There is one piece more than there are line feeds. -/
theorem length_splitOn_feed (s : List Char) : (s.splitOn '\n').length = s.count '\n' + 1 := by
  induction s with
  | nil => rfl
  | cons c s ih =>
    rw [List.splitOn_cons_eq_if_modifyHead, List.count_cons]
    split
    · rw [List.length_cons, ih]
    · rw [List.length_modifyHead, ih]

/-- There is one line more than there are line feeds. -/
theorem length_lines (text : String) : (lines text).length = text.toList.count '\n' + 1 := by
  obtain ⟨pieces, last, hpieces⟩ : ∃ pieces last, text.toList.splitOn '\n' = pieces ++ [last] :=
    ⟨_, _, (List.dropLast_concat_getLast (List.splitOn_ne_nil '\n' _)).symm⟩
  rw [← length_splitOn_feed, lines, lineChars, hpieces]
  simp

theorem dropFinalReturn_sublist (s : List Char) : (dropFinalReturn s).Sublist s := by
  rw [dropFinalReturn]
  split
  · exact List.dropLast_sublist s
  · exact List.Sublist.refl s

theorem feed_not_mem_of_mem_lines {text line : String} (h : line ∈ lines text) :
    '\n' ∉ line.toList := by
  obtain ⟨s, hs, rfl⟩ := List.mem_map.1 h
  rw [String.toList_ofList]
  rcases List.mem_append.1 hs with hs | hs
  · obtain ⟨piece, hpiece, rfl⟩ := List.mem_map.1 hs
    exact fun hmem => not_mem_of_mem_splitOn ((List.dropLast_sublist _).mem hpiece)
      ((dropFinalReturn_sublist piece).mem hmem)
  · exact not_mem_of_mem_splitOn (List.mem_of_getLast? (Option.mem_toList.1 hs))

end Text
end ContentBlocker
