import ContentBlocker.Text.CodeUnits

/-!
# Texts in the order of code units

The order of code units is a linear order on texts: of two texts each of which comes before the
other, both are the same (`le_antisymm`), because the units of a text tell its characters
(`textUnits_injective`).  So texts can be put in order in one way only, whatever order they were in
before (`eq_of_ordered`).
-/

set_option autoImplicit false
namespace ContentBlocker.Text

/-! ## Code units tell the characters -/

/-- A unit that is a character by itself is none of those that begin a pair, and the two units of a
pair tell a character. -/
theorem codeUnits_append_inj {c d : Char} {s t : List Nat}
    (h : codeUnits c ++ s = codeUnits d ++ t) : c = d ∧ s = t := by
  have hc : c.toNat < 0xd800 ∨ 0xdfff < c.toNat ∧ c.toNat < 0x110000 := c.valid
  have hd : d.toNat < 0xd800 ∨ 0xdfff < d.toNat ∧ d.toNat < 0x110000 := d.valid
  simp only [codeUnits] at h
  by_cases hsmall : c.toNat < 0x10000
  · by_cases hsmall' : d.toNat < 0x10000
    · rw [if_pos hsmall, if_pos hsmall'] at h
      obtain ⟨hunit, hrest⟩ := List.cons.inj h
      exact ⟨Char.toNat_inj.1 hunit, hrest⟩
    · rw [if_pos hsmall, if_neg hsmall'] at h
      have hunit := (List.cons.inj h).1
      omega
  · by_cases hsmall' : d.toNat < 0x10000
    · rw [if_neg hsmall, if_pos hsmall'] at h
      have hunit := (List.cons.inj h).1
      omega
    · rw [if_neg hsmall, if_neg hsmall'] at h
      obtain ⟨hhigh, htail⟩ := List.cons.inj h
      obtain ⟨hlow, hrest⟩ := List.cons.inj htail
      exact ⟨Char.toNat_inj.1 (by omega), hrest⟩

theorem codeUnits_ne_nil (c : Char) : codeUnits c ≠ [] := by
  rw [codeUnits]
  split <;> exact List.cons_ne_nil _ _

/-- **The units of a text tell the text.** -/
theorem textUnits_injective {s t : String} (h : textUnits s = textUnits t) : s = t := by
  have hchars (s t : List Char) (h : s.flatMap codeUnits = t.flatMap codeUnits) : s = t := by
    induction s generalizing t with
    | nil =>
      cases t with
      | nil => rfl
      | cons d t =>
        rw [List.flatMap_nil, List.flatMap_cons] at h
        exact absurd h.symm (List.append_ne_nil_of_left_ne_nil (codeUnits_ne_nil d) _)
    | cons c s ih =>
      cases t with
      | nil =>
        rw [List.flatMap_nil, List.flatMap_cons] at h
        exact absurd h (List.append_ne_nil_of_left_ne_nil (codeUnits_ne_nil c) _)
      | cons d t =>
        rw [List.flatMap_cons, List.flatMap_cons] at h
        obtain ⟨rfl, hrest⟩ := codeUnits_append_inj h
        rw [ih t hrest]
  exact String.toList_inj.1 (hchars s.toList t.toList h)

/-! ## The order -/

theorem unitsLe_antisymm {a b : List Nat} (hab : unitsLe a b = true) (hba : unitsLe b a = true) :
    a = b := by
  induction a generalizing b with
  | nil =>
    cases b with
    | nil => rfl
    | cons y ys => cases hba
  | cons x xs ih =>
    cases b with
    | nil => cases hab
    | cons y ys =>
      simp only [unitsLe, Bool.or_eq_true, decide_eq_true_eq, Bool.and_eq_true,
        beq_iff_eq] at hab hba
      rcases hab with hlt | ⟨rfl, hab⟩
      · omega
      · rcases hba with hlt | ⟨-, hba⟩
        · exact absurd hlt (Nat.lt_irrefl x)
        · rw [ih hab hba]

theorem le_antisymm {s t : String} (hst : le s t = true) (hts : le t s = true) : s = t :=
  textUnits_injective (unitsLe_antisymm hst hts)

/-! ## Putting texts in order -/

theorem mem_sorted {texts : List String} {text : String} : text ∈ sorted texts ↔ text ∈ texts :=
  (List.mergeSort_perm texts le).mem_iff

/-- Different texts are put in an order in which each comes before all that are behind it. -/
theorem pairwise_sorted {texts : List String} (h : texts.Nodup) :
    (sorted texts).Pairwise fun s t => le s t = true ∧ s ≠ t := by
  have htrans (s t u : String) (hst : le s t = true) (htu : le t u = true) : le s u = true :=
    unitsLe_trans hst htu
  have htotal (s t : String) : (le s t || le t s) = true :=
    Bool.or_eq_true_iff.2 (unitsLe_total _ _)
  have hle : (sorted texts).Pairwise fun s t => le s t = true :=
    List.pairwise_mergeSort htrans htotal texts
  exact hle.and ((List.mergeSort_perm texts le).nodup_iff.2 h)

/-- **There is one order in which things with different names are put by their names.** -/
theorem eq_of_ordered {α : Type} (name : α → String) {as bs : List α}
    (has : as.Pairwise fun a b => le (name a) (name b) = true ∧ name a ≠ name b)
    (hbs : bs.Pairwise fun a b => le (name a) (name b) = true ∧ name a ≠ name b)
    (hmem : ∀ a, a ∈ as ↔ a ∈ bs) : as = bs := by
  have hnodup {as : List α}
      (h : as.Pairwise fun a b => le (name a) (name b) = true ∧ name a ≠ name b) : as.Nodup :=
    h.imp fun hab heq => hab.2 (congrArg name heq)
  refine List.Perm.eq_of_pairwise (fun a b _ _ hab hba => ?_) has hbs
    ((List.perm_ext_iff_of_nodup (hnodup has) (hnodup hbs)).2 hmem)
  exact absurd (le_antisymm hab.1 hba.1) hab.2

end ContentBlocker.Text
