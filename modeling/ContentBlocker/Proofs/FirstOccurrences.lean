import Mathlib.Data.List.Basic
import Mathlib.Data.List.Induction

/-!
# Lists without their repeats

Domains and kinds of resources are collected one after another, and what is there already is not
put in again.  So what is collected has no repeats, and each element stands where it stood first
(`KeepsFirst`).  That determines it: it is the list without its repeats (`keepsFirst_iff`).

The inductions go along a list as it is collected, from its end, with one lemma for an element that
is there already and one for an element that is new.  A repeat behind the first place of an element
changes nothing (`eraseDups_append_cons_of_mem`), while one before it moves the element.
-/

set_option autoImplicit false
namespace ContentBlocker

variable {α : Type} [BEq α] {xs ys zs : List α}

/-- A list has the elements of another, each of them once, and in the order of their first places
there. -/
structure KeepsFirst (xs ys : List α) : Prop where
  nodup : ys.Nodup
  mem_iff : ∀ a, a ∈ ys ↔ a ∈ xs
  ordered : ys.Pairwise fun a b => xs.idxOf a < xs.idxOf b

/-- There is only one list in that order. -/
theorem KeepsFirst.unique (h : KeepsFirst xs ys) (h' : KeepsFirst xs zs) : ys = zs := by
  have hperm : ys.Perm zs := (List.perm_ext_iff_of_nodup h.nodup h'.nodup).2 fun a =>
    (h.mem_iff a).trans (h'.mem_iff a).symm
  exact hperm.eq_of_pairwise (fun a b _ _ hab hba => absurd hab (Nat.lt_asymm hba)) h.ordered
    h'.ordered

variable [LawfulBEq α] {a : α}

namespace KeepsFirst

/-- What comes behind a list does not move the first places in it. -/
private theorem ordered_append (h : KeepsFirst xs ys) (behind : List α) :
    ys.Pairwise fun a b => (xs ++ behind).idxOf a < (xs ++ behind).idxOf b := by
  refine h.ordered.imp_of_mem fun {b c} hb hc hlt => ?_
  rwa [List.idxOf_append_of_mem ((h.mem_iff b).1 hb), List.idxOf_append_of_mem ((h.mem_iff c).1 hc)]

/-- An element that is there already is not put in again. -/
theorem concat_of_mem (h : KeepsFirst xs ys) (ha : a ∈ xs) : KeepsFirst (xs ++ [a]) ys where
  nodup := h.nodup
  mem_iff := by
    intro b
    rw [h.mem_iff, List.mem_append, List.mem_singleton]
    refine ⟨.inl, ?_⟩
    rintro (hb | rfl)
    · exact hb
    · exact ha
  ordered := h.ordered_append [a]

/-- A new element comes last. -/
theorem concat_of_not_mem (h : KeepsFirst xs ys) (ha : a ∉ xs) :
    KeepsFirst (xs ++ [a]) (ys ++ [a]) where
  nodup := by
    refine List.nodup_append.2 ⟨h.nodup, List.pairwise_singleton _ a, fun b hb c hc => ?_⟩
    rintro rfl
    exact ha ((h.mem_iff a).1 (List.mem_singleton.1 hc ▸ hb))
  mem_iff := by
    intro b
    rw [List.mem_append, List.mem_append, h.mem_iff]
  ordered := by
    refine List.pairwise_append.2 ⟨h.ordered_append [a], List.pairwise_singleton _ a, ?_⟩
    intro b hb c hc
    have hbefore := List.idxOf_lt_length_iff.2 ((h.mem_iff b).1 hb)
    rwa [List.mem_singleton.1 hc, List.idxOf_append_of_mem ((h.mem_iff b).1 hb),
      List.idxOf_append_of_notMem ha, List.idxOf_cons_self]

end KeepsFirst

theorem eraseDups_concat_of_mem (h : a ∈ xs) : (xs ++ [a]).eraseDups = xs.eraseDups := by
  rw [List.eraseDups_append, List.cons_removeAll, if_neg (by simpa using h)]
  exact List.append_nil _

theorem eraseDups_concat_of_not_mem (h : a ∉ xs) :
    (xs ++ [a]).eraseDups = xs.eraseDups ++ [a] := by
  rw [List.eraseDups_append, List.cons_removeAll, if_pos (by simpa using h)]
  rfl

theorem keepsFirst_eraseDups (xs : List α) : KeepsFirst xs xs.eraseDups := by
  induction xs using List.reverseRecOn with
  | nil => exact ⟨List.nodup_nil, fun _ => Iff.rfl, .nil⟩
  | append_singleton xs a ih =>
    by_cases h : a ∈ xs
    · rw [eraseDups_concat_of_mem h]
      exact ih.concat_of_mem h
    · rw [eraseDups_concat_of_not_mem h]
      exact ih.concat_of_not_mem h

/-- **The list without its repeats is the one that keeps every element at its first place.** -/
theorem keepsFirst_iff : KeepsFirst xs ys ↔ xs.eraseDups = ys :=
  ⟨(keepsFirst_eraseDups xs).unique, fun h => h ▸ keepsFirst_eraseDups xs⟩

theorem nodup_eraseDups (xs : List α) : xs.eraseDups.Nodup :=
  (keepsFirst_eraseDups xs).nodup

theorem eraseDups_ne_nil (h : xs ≠ []) : xs.eraseDups ≠ [] := by
  obtain ⟨a, ha⟩ := List.exists_mem_of_ne_nil xs h
  exact List.ne_nil_of_mem (List.mem_eraseDups.2 ha)

theorem perm_eraseDups (h : xs.Perm ys) : xs.eraseDups.Perm ys.eraseDups := by
  rw [List.perm_ext_iff_of_nodup (nodup_eraseDups xs) (nodup_eraseDups ys)]
  intro a
  rw [List.mem_eraseDups, List.mem_eraseDups]
  exact h.mem_iff

/-- What has no repeats is left as it is. -/
theorem eraseDups_eq_self (h : xs.Nodup) : xs.eraseDups = xs := by
  induction xs using List.reverseRecOn with
  | nil => rfl
  | append_singleton xs a ih =>
    obtain ⟨hxs, -, hapart⟩ := List.nodup_append.1 h
    have hnot : a ∉ xs := fun hmem => hapart a hmem a List.mem_cons_self rfl
    rw [eraseDups_concat_of_not_mem hnot, ih hxs]

/-- Behind what is collected already comes only what is new. -/
theorem eraseDups_append_eq_filter (xs ys : List α) :
    (xs ++ ys).eraseDups = xs.eraseDups ++ ys.eraseDups.filter (!xs.contains ·) := by
  induction ys using List.reverseRecOn with
  | nil => simp
  | append_singleton ys a ih =>
    rw [← List.append_assoc]
    by_cases hys : a ∈ ys
    · rw [eraseDups_concat_of_mem (List.mem_append_right xs hys), ih, eraseDups_concat_of_mem hys]
    · rw [eraseDups_concat_of_not_mem hys, List.filter_append, ← List.append_assoc, ← ih]
      by_cases hxs : a ∈ xs
      · rw [eraseDups_concat_of_mem (List.mem_append_left ys hxs)]
        simp [hxs]
      · rw [eraseDups_concat_of_not_mem (by simp [hxs, hys])]
        simp [hxs]

/-- A repeat behind the first place of an element is left out. -/
theorem eraseDups_append_cons_of_mem (h : a ∈ xs) (ys : List α) :
    (xs ++ a :: ys).eraseDups = (xs ++ ys).eraseDups := by
  have hcontains (b : α) : (xs ++ [a]).contains b = xs.contains b := by
    by_cases hb : b = a
    · simp [hb, h]
    · simp [hb]
  calc (xs ++ a :: ys).eraseDups
      = (xs ++ [a] ++ ys).eraseDups := by rw [List.append_cons]
    _ = (xs ++ [a]).eraseDups ++ ys.eraseDups.filter (!(xs ++ [a]).contains ·) :=
      eraseDups_append_eq_filter _ _
    _ = xs.eraseDups ++ ys.eraseDups.filter (!xs.contains ·) := by
      simp only [eraseDups_concat_of_mem h, hcontains]
    _ = (xs ++ ys).eraseDups := (eraseDups_append_eq_filter xs ys).symm

end ContentBlocker
