import Mathlib.Algebra.Order.Floor.Div
import Mathlib.Algebra.Order.Ring.Nat
import Mathlib.Data.List.SplitBy
import Mathlib.Data.Nat.Log
import ContentBlocker.Proofs.Allowlist.Commas
import ContentBlocker.Proofs.Text.Occurrence

/-!
# How the repair of commas ends

The repair of commas goes over the text in rounds, as long as two commas stand next to each other.
A round takes the commas of a run two at a time and from the left, so that half of them are left,
rounded up (`halveCommas_commas`).  No two runs meet by that, and nothing else changes.  So `n`
rounds leave `m / 2 ^ n` commas of a run of `m`, rounded up (`commaRuns_iterate`), and the length of
the longest run tells the number of rounds (`occursIn_iterate_eq_false_iff`).

What the last round leaves is `squeezeCommas`, which looks at every character once.
-/

set_option autoImplicit false
namespace ContentBlocker

open Text (occursIn replaceChars)

/-! ## The runs of a text -/

/-- A text in parts: every run of commas, as long as it goes, and every other character. -/
def commaRuns (s : List Char) : List (List Char) :=
  s.splitBy fun c d => c == ',' && d == ','

theorem commaRuns_cons {c : Char} (hc : c ≠ ',') (s : List Char) :
    commaRuns (c :: s) = [c] :: commaRuns s :=
  List.splitBy_append (l := [c]) (by simp [hc])

theorem commaRuns_commas (n : Nat) {s : List Char} (hs : s.head? ≠ some ',') :
    commaRuns (List.replicate (n + 1) ',' ++ s) = List.replicate (n + 1) ',' :: commaRuns s := by
  have hrun : (List.replicate (n + 1) ',').splitBy (fun c d => c == ',' && d == ',') =
      [List.replicate (n + 1) ','] :=
    List.splitBy_of_isChain (by simp) (List.isChain_replicate_of_rel _ rfl)
  have happart : ∀ c ∈ (List.replicate (n + 1) ',').getLast?, ∀ d ∈ s.head?,
      (c == ',' && d == ',') = false := by
    intro c _ d hd
    have hne : d ≠ ',' := by
      rintro rfl
      exact hs hd
    simp [hne]
  rw [commaRuns, List.splitBy_append happart, hrun]
  rfl

/-- A text is read run by run. -/
@[elab_as_elim]
theorem commaRuns_induction {motive : List Char → Prop} (nil : motive [])
    (char : ∀ c s, c ≠ ',' → motive s → motive (c :: s))
    (commas : ∀ n s, s.head? ≠ some ',' → motive s → motive (List.replicate (n + 1) ',' ++ s))
    (s : List Char) : motive s := by
  -- the number of commas that have been read and not yet used
  have hread : ∀ n, motive (List.replicate n ',' ++ s) := by
    induction s with
    | nil =>
      intro n
      cases n with
      | zero => exact nil
      | succ n => exact commas n [] nofun nil
    | cons c s ih =>
      intro n
      by_cases hc : c = ','
      · rw [hc, ← List.singleton_append, ← List.append_assoc, ← List.replicate_succ']
        exact ih (n + 1)
      · have hmotive : motive (c :: s) := char c s hc (ih 0)
        cases n with
        | zero => exact hmotive
        | succ n => exact commas n (c :: s) (fun h => hc (Option.some.inj h)) hmotive
  exact hread 0

/-- The length of the longest run. -/
def longestRun (s : List Char) : Nat :=
  (commaRuns s).foldr (fun run longest => max run.length longest) 0

theorem longestRun_le_iff {s : List Char} {k : Nat} :
    longestRun s ≤ k ↔ ∀ run ∈ commaRuns s, run.length ≤ k := by
  rw [longestRun]
  induction commaRuns s with
  | nil => simp
  | cons run runs ih => rw [List.foldr_cons, max_le_iff, ih, List.forall_mem_cons]

/-- No two commas begin at a character that does not go on a run. -/
theorem avoids_two_commas {c : Char} {s : List Char} (h : c = ',' → s.head? ≠ some ',') :
    Text.Avoids [',', ','] [c] s := by
  refine ⟨?_, Text.avoids_nil⟩
  rintro ⟨t, ht⟩
  obtain ⟨hc, hs⟩ := List.cons.inj ht
  exact h hc.symm (by rw [← List.nil_append s, ← hs]; rfl)

theorem occursIn_cons_of_apart {c : Char} {s : List Char} (h : c = ',' → s.head? ≠ some ',') :
    occursIn [',', ','] (c :: s) = occursIn [',', ','] s := by
  have hpre : [',', ','].isPrefixOf (c :: s) = false :=
    Bool.eq_false_iff.2 fun hpre => (avoids_two_commas h).1 (List.isPrefixOf_iff_prefix.1 hpre)
  rw [occursIn, hpre, Bool.false_or]

/-- Two commas stand next to each other exactly within a run. -/
theorem occursIn_eq_false_iff_runs {s : List Char} :
    occursIn [',', ','] s = false ↔ ∀ run ∈ commaRuns s, run.length ≤ 1 := by
  induction s using commaRuns_induction with
  | nil => exact iff_of_true rfl nofun
  | char c s hc ih =>
    rw [commaRuns_cons hc, List.forall_mem_cons, ← ih, occursIn_cons_of_apart fun h => absurd h hc]
    exact (and_iff_right (Nat.le_refl 1)).symm
  | commas n s hs ih =>
    rw [commaRuns_commas n hs, List.forall_mem_cons, ← ih, List.length_replicate]
    cases n with
    | zero =>
      rw [List.replicate_one, List.singleton_append, occursIn_cons_of_apart fun _ => hs]
      exact (and_iff_right (Nat.le_refl 1)).symm
    | succ n => exact iff_of_false nofun fun h => absurd h.1 (by omega)

/-! ## One round -/

/-- One round of the repair: one comma for every two. -/
def halveCommas (s : List Char) : List Char :=
  replaceChars [',', ','] [','] s

theorem halveCommas_cons {c : Char} (hc : c ≠ ',') (s : List Char) :
    halveCommas (c :: s) = c :: halveCommas s :=
  Text.replaceChars_append_of_avoids [','] (avoids_two_commas fun h => absurd h hc)

theorem succ_ceilDiv_two (n : Nat) : (n + 1) ⌈/⌉ 2 = n / 2 + 1 := by
  rw [Nat.ceilDiv_eq_add_pred_div]
  omega

/-- **A round leaves half of the commas of a run**, rounded up. -/
theorem halveCommas_commas (n : Nat) {s : List Char} (hs : s.head? ≠ some ',') :
    halveCommas (List.replicate n ',' ++ s) = List.replicate (n ⌈/⌉ 2) ',' ++ halveCommas s := by
  induction n using Nat.twoStepInduction with
  | zero => rfl
  | one => exact Text.replaceChars_append_of_avoids [','] (avoids_two_commas fun _ => hs)
  | more n ih _ =>
    have hhalf : (n + 2) ⌈/⌉ 2 = n ⌈/⌉ 2 + 1 := succ_ceilDiv_two (n + 1)
    calc halveCommas (List.replicate (n + 2) ',' ++ s)
        = halveCommas ([',', ','] ++ (List.replicate n ',' ++ s)) := rfl
      _ = [','] ++ halveCommas (List.replicate n ',' ++ s) :=
          Text.replaceChars_self_append [','] (List.cons_ne_nil _ _)
      _ = List.replicate ((n + 2) ⌈/⌉ 2) ',' ++ halveCommas s := by
          rw [ih, hhalf, List.replicate_succ]
          rfl

theorem head?_halveCommas (s : List Char) : (halveCommas s).head? = s.head? := by
  induction s using commaRuns_induction with
  | nil => rfl
  | char c s hc _ => rw [halveCommas_cons hc, List.head?_cons, List.head?_cons]
  | commas n s hs _ =>
    rw [halveCommas_commas _ hs, succ_ceilDiv_two]
    rfl

/-- **A round shortens every run to its half**, rounded up, and keeps them apart. -/
theorem commaRuns_halveCommas (s : List Char) :
    commaRuns (halveCommas s) =
      (commaRuns s).map fun run => run.take (run.length ⌈/⌉ 2) := by
  induction s using commaRuns_induction with
  | nil => rfl
  | char c s hc ih =>
    rw [halveCommas_cons hc, commaRuns_cons hc, commaRuns_cons hc, List.map_cons, ih,
      List.length_singleton, succ_ceilDiv_two 0]
    rfl
  | commas n s hs ih =>
    have hs' : (halveCommas s).head? ≠ some ',' := by rwa [head?_halveCommas]
    have hle : n / 2 + 1 ≤ n + 1 := Nat.succ_le_succ (Nat.div_le_self n 2)
    rw [halveCommas_commas _ hs, succ_ceilDiv_two, commaRuns_commas _ hs', commaRuns_commas _ hs,
      List.map_cons, ih, List.length_replicate, succ_ceilDiv_two, List.take_replicate,
      Nat.min_eq_left hle]

example : halveCommas "[,,,,,\x7b,,\x7d,]".toList = "[,,,\x7b,\x7d,]".toList := by
  decide

/-! ## All rounds -/

theorem ceilDiv_pow_succ (m n : Nat) : (m ⌈/⌉ 2 ^ n) ⌈/⌉ 2 = m ⌈/⌉ 2 ^ (n + 1) := by
  refine eq_of_forall_ge_iff fun k => ?_
  rw [ceilDiv_le_iff_le_mul two_pos, ceilDiv_le_iff_le_mul (Nat.two_pow_pos n),
    ceilDiv_le_iff_le_mul (Nat.two_pow_pos (n + 1)), pow_succ, mul_assoc]

theorem ceilDiv_le_self (m : Nat) {k : Nat} (hk : 0 < k) : m ⌈/⌉ k ≤ m :=
  (ceilDiv_le_iff_le_mul hk).2 (Nat.le_mul_of_pos_left m hk)

theorem length_take_ceilDiv_pow (run : List Char) (n : Nat) :
    (run.take (run.length ⌈/⌉ 2 ^ n)).length = run.length ⌈/⌉ 2 ^ n := by
  rw [List.length_take, Nat.min_eq_left (ceilDiv_le_self _ (Nat.two_pow_pos n))]

/-- **What is left of the runs after a number of rounds.** -/
theorem commaRuns_iterate (n : Nat) (s : List Char) :
    commaRuns (halveCommas^[n] s) =
      (commaRuns s).map fun run => run.take (run.length ⌈/⌉ 2 ^ n) := by
  induction n with
  | zero => simp
  | succ n ih =>
    rw [Function.iterate_succ_apply', commaRuns_halveCommas, ih, List.map_map]
    refine List.map_congr_left fun run _ => ?_
    have hle : run.length ⌈/⌉ 2 ^ (n + 1) ≤ run.length ⌈/⌉ 2 ^ n := by
      rw [← ceilDiv_pow_succ]
      exact ceilDiv_le_self _ Nat.two_pos
    rw [Function.comp_apply, length_take_ceilDiv_pow, ceilDiv_pow_succ, List.take_take,
      Nat.min_eq_left hle]

/-- The number of rounds that the repair of a text takes. -/
def repairRounds (s : List Char) : Nat :=
  Nat.clog 2 (longestRun s)

/-- **Two commas stand next to each other until the last round.** -/
theorem occursIn_iterate_eq_false_iff {n : Nat} {s : List Char} :
    occursIn [',', ','] (halveCommas^[n] s) = false ↔ repairRounds s ≤ n := by
  rw [occursIn_eq_false_iff_runs, commaRuns_iterate, List.forall_mem_map, repairRounds,
    Nat.clog_le_iff_le_pow Nat.one_lt_two, longestRun_le_iff]
  refine forall₂_congr fun run _ => ?_
  rw [length_take_ceilDiv_pow, ceilDiv_le_iff_le_mul (Nat.two_pow_pos n), mul_one]

/-- The repair stops after the first round that leaves no two commas next to each other. -/
theorem collapseCommas_eq_iterate {n : Nat} {s : List Char}
    (hbefore : ∀ m < n, occursIn [',', ','] (halveCommas^[m] s) = true)
    (hend : occursIn [',', ','] (halveCommas^[n] s) = false) :
    collapseCommas s = halveCommas^[n] s := by
  induction n generalizing s with
  | zero =>
    rw [Function.iterate_zero_apply] at hend ⊢
    rw [collapseCommas, dif_neg (Bool.eq_false_iff.1 hend)]
  | succ n ih =>
    have hoccurs : occursIn [',', ','] s = true := hbefore 0 n.succ_pos
    rw [collapseCommas, dif_pos hoccurs, Function.iterate_succ_apply]
    exact ih (fun m hm => hbefore (m + 1) (Nat.succ_lt_succ hm)) hend

/-! ## What is left in the end -/

theorem squeezeCommas_commas (n : Nat) {s : List Char} (hs : s.head? ≠ some ',') :
    squeezeCommas (List.replicate (n + 1) ',' ++ s) = ',' :: squeezeCommas s := by
  induction n with
  | zero => exact squeezeCommas_append_of_apart (s := [',']) fun _ => hs
  | succ n ih =>
    rw [List.replicate_succ, List.replicate_succ, List.cons_append, List.cons_append,
      squeezeCommas_comma_comma]
    exact ih

/-- Of every run the first character is left. -/
theorem squeezeCommas_eq_flatMap_runs (s : List Char) :
    squeezeCommas s = (commaRuns s).flatMap (List.take 1) := by
  induction s using commaRuns_induction with
  | nil => rfl
  | char c s hc ih =>
    rw [squeezeCommas_cons hc, commaRuns_cons hc, List.flatMap_cons, ih]
    rfl
  | commas n s hs ih =>
    rw [squeezeCommas_commas n hs, commaRuns_commas n hs, List.flatMap_cons, ih]
    rfl

/-- **Repairing commas ends, and shortens runs of commas only.**  There is a first round that leaves
no two commas next to each other; the length of the longest run tells which one it is, each round up
to it shortens the text, and the repair stops there.  Of the runs nothing but the length changes:
none is lost or joined to another, and a character that is no comma, being a run of its own, stays.
In the end there is one comma in place of every run. -/
theorem repair_leaves_one_comma_of_each_run (s : List Char) :
    IsLeast {n | occursIn [',', ','] (halveCommas^[n] s) = false} (repairRounds s) ∧
      collapseCommas s = halveCommas^[repairRounds s] s ∧
      (∀ n < repairRounds s, (halveCommas^[n + 1] s).length < (halveCommas^[n] s).length) ∧
      (∀ n, commaRuns (halveCommas^[n] s) =
        (commaRuns s).map fun run => run.take (run.length ⌈/⌉ 2 ^ n)) ∧
      collapseCommas s = (commaRuns s).flatMap (List.take 1) := by
  have hend : occursIn [',', ','] (halveCommas^[repairRounds s] s) = false :=
    occursIn_iterate_eq_false_iff.2 (Nat.le_refl _)
  have hbefore : ∀ n < repairRounds s, occursIn [',', ','] (halveCommas^[n] s) = true := by
    intro n hn
    by_contra hnone
    have hle := occursIn_iterate_eq_false_iff.1 (Bool.eq_false_iff.2 hnone)
    exact absurd hle (Nat.not_le_of_lt hn)
  refine ⟨⟨hend, fun n hn => occursIn_iterate_eq_false_iff.1 hn⟩,
    collapseCommas_eq_iterate hbefore hend, fun n hn => ?_, fun n => commaRuns_iterate n s, ?_⟩
  · rw [Function.iterate_succ_apply']
    exact Text.length_replaceChars_lt (by decide) (hbefore n hn)
  · rw [collapseCommas_eq, squeezeCommas_eq_flatMap_runs]

end ContentBlocker
