import ContentBlocker.Allowlist.Commas
import ContentBlocker.Proofs.Entry.Placement

/-!
# What the repair of commas does

Replacing two commas by one until there are no two next to each other leaves one comma of every run
of commas, in one pass from the right (`collapseCommas_eq`).  So a text in two parts can be taken part
by part, unless a run of commas reaches from one into the other (`squeezeCommas_append_of_apart`).
-/

set_option autoImplicit false
namespace ContentBlocker

open Text (occursIn pieces replaceChars)

/-! ## Runs of commas -/

/-- Puts a character before a text, unless it makes a run of commas longer. -/
def consComma (c : Char) (s : List Char) : List Char :=
  if c = ',' ∧ s.head? = some ',' then s else c :: s

/-- The text with one comma in place of every run of commas. -/
def squeezeCommas (s : List Char) : List Char :=
  s.foldr consComma []

theorem squeezeCommas_append (s t : List Char) :
    squeezeCommas (s ++ t) = s.foldr consComma (squeezeCommas t) :=
  List.foldr_append

theorem squeezeCommas_comma_comma (s : List Char) :
    squeezeCommas (',' :: ',' :: s) = squeezeCommas (',' :: s) := by
  have hhead : (squeezeCommas (',' :: s)).head? = some ',' := by
    show (consComma ',' (squeezeCommas s)).head? = some ','
    rw [consComma]
    split
    · rename_i h
      exact h.2
    · rfl
  show consComma ',' (squeezeCommas (',' :: s)) = squeezeCommas (',' :: s)
  rw [consComma, if_pos ⟨rfl, hhead⟩]

/-- Two commas between texts are as good as one. -/
theorem squeezeCommas_intercalate (ss : List (List Char)) :
    squeezeCommas ([',', ','].intercalate ss) = squeezeCommas ([','].intercalate ss) := by
  induction ss with
  | nil => rfl
  | cons s ss ih =>
    by_cases hss : ss = []
    · rw [hss, List.intercalate_singleton, List.intercalate_singleton]
    · have hcommas : squeezeCommas ([',', ','] ++ [',', ','].intercalate ss) =
          squeezeCommas ([','] ++ [','].intercalate ss) := by
        rw [squeezeCommas_append [','], ← ih]
        exact squeezeCommas_comma_comma _
      rw [List.intercalate_cons_of_ne_nil hss, List.intercalate_cons_of_ne_nil hss,
        List.append_assoc, List.append_assoc, squeezeCommas_append s, squeezeCommas_append s,
        hcommas]

/-- A text without two commas next to each other stays as it is. -/
theorem squeezeCommas_eq_self {s : List Char} (h : occursIn [',', ','] s = false) :
    squeezeCommas s = s := by
  induction s with
  | nil => rfl
  | cons c s ih =>
    rw [occursIn, Bool.or_eq_false_iff] at h
    show consComma c (squeezeCommas s) = c :: s
    rw [ih h.2, consComma, if_neg]
    rintro ⟨rfl, hhead⟩
    obtain ⟨t, rfl⟩ := List.head?_eq_some_iff.1 hhead
    cases h.1

/-- **One comma is left of every run of commas.** -/
theorem collapseCommas_eq (s : List Char) : collapseCommas s = squeezeCommas s := by
  fun_induction collapseCommas s with
  | case1 s h _ ih =>
    rw [ih, replaceChars, ← squeezeCommas_intercalate,
      Text.intercalate_pieces (List.cons_ne_nil _ _)]
  | case2 s h => rw [squeezeCommas_eq_self (by simpa using h)]

/-- Only a text with two commas next to each other is changed. -/
theorem squeezeCommas_eq_self_iff {s : List Char} :
    squeezeCommas s = s ↔ occursIn [',', ','] s = false := by
  refine ⟨fun h => ?_, squeezeCommas_eq_self⟩
  rw [← h, ← collapseCommas_eq]
  exact not_occursIn_collapseCommas s

/-! ## Runs of commas where two texts meet -/

theorem head?_squeezeCommas (s : List Char) : (squeezeCommas s).head? = s.head? := by
  cases s with
  | nil => rfl
  | cons c s =>
    show (consComma c (squeezeCommas s)).head? = some c
    rw [consComma]
    split
    · rename_i h
      rw [h.2, h.1]
    · rfl

/-- A run of commas does not reach from one text into the next if either has another character where
they meet. -/
theorem squeezeCommas_append_of_apart {s t : List Char}
    (h : s.getLast? = some ',' → t.head? ≠ some ',') :
    squeezeCommas (s ++ t) = squeezeCommas s ++ squeezeCommas t := by
  induction s with
  | nil => rfl
  | cons c s ih =>
    show consComma c (squeezeCommas (s ++ t)) = consComma c (squeezeCommas s) ++ squeezeCommas t
    cases s with
    | nil =>
      rw [List.nil_append, consComma, consComma, head?_squeezeCommas, if_neg, if_neg]
      · rfl
      · exact nofun
      · rintro ⟨rfl, hhead⟩
        exact h rfl hhead
    | cons d s =>
      have hhead : (squeezeCommas (d :: s) ++ squeezeCommas t).head? =
          (squeezeCommas (d :: s)).head? := by
        rw [List.head?_append, head?_squeezeCommas]
        rfl
      rw [ih (by simpa using h), consComma, consComma, hhead]
      split <;> rfl

theorem squeezeCommas_cons {c : Char} (hc : c ≠ ',') (s : List Char) :
    squeezeCommas (c :: s) = c :: squeezeCommas s := by
  show consComma c (squeezeCommas s) = c :: squeezeCommas s
  rw [consComma, if_neg fun h => hc h.1]

theorem squeezeCommas_of_not_mem {s : List Char} (h : ',' ∉ s) : squeezeCommas s = s := by
  induction s with
  | nil => rfl
  | cons c s ih =>
    rw [List.mem_cons, not_or] at h
    rw [squeezeCommas_cons (Ne.symm h.1), ih h.2]

end ContentBlocker
