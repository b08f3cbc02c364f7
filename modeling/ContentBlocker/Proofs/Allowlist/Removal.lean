import ContentBlocker.Proofs.Allowlist.EntryEdit

/-!
# How far a removal reaches

The removal of a rule takes all copies of its entry out of the text of a content blocker.  The other
entries are left as they were, and their commas between them, wherever the copies stood: alone, next
to each other in the middle, and one at each end.  Only where two or more stand next to each other at
the start or at the end is something else left, which is not the text of any entries
(`removed_without_trace_iff`).

That the other entries are left as they were needs that no two commas stand next to each other in
their texts, because the repair of commas leaves one of these, too (`entriesWithout_eq_filter`).
-/

set_option autoImplicit false
namespace ContentBlocker

section
variable {es : List Entry} (hcommas : ¬ [',', ','] <:+: (serializeEntries es).toList)
include hcommas

/-- Entries in whose text no two commas stand next to each other stay as they are. -/
theorem squeezed_eq_self {d : Entry} (hd : d ∈ es) : d.squeezed = d := by
  have habsent : Text.occursIn [',', ','] (serializeEntries es).toList = false :=
    Bool.eq_false_iff.2 (mt Text.occursIn_iff.1 hcommas)
  have htext := squeezeCommas_serializeEntries es
  rw [squeezeCommas_eq_self habsent] at htext
  have hmap := serializeEntries_injective (String.toList_injective htext)
  exact List.map_inj_left.1 (hmap.symm.trans (List.map_id es).symm) d hd

/-- What a removal leaves are the other entries as they were. -/
theorem entriesWithout_eq_filter (e : Entry) : entriesWithout e es = es.filter (· ≠ e) := by
  have hself : ∀ d ∈ es.filter (· ≠ e), d.squeezed = id d :=
    fun d hd => squeezed_eq_self hcommas (List.mem_of_mem_filter hd)
  rw [entriesWithout, List.map_congr_left hself, List.map_id]

end

/-- The text of some entries, or the placeholder if there are none, is read as an array. -/
theorem read_entries_or_placeholder (es : List Entry) :
    Json.read (if es = [] then placeholder else serializeEntries es) ≠ none := by
  split
  · rw [placeholder, read_serializeEntries]
    exact Option.some_ne_none _
  · rw [read_serializeEntries]
    exact Option.some_ne_none _

/-- **A removal leaves the other entries and nothing else, unless two copies stand next to each other
at an end.**  The rule for a site whose entry is listed is always removed.  What is left is the text
of the other entries, or the placeholder if there are none, exactly if the entries neither begin nor
end with two copies, and then both counts have gone down by the number of copies. -/
theorem removed_without_trace_iff {es : List Entry}
    (hcommas : ¬ [',', ','] <:+: (serializeEntries es).toList) {kind : AllowKind}
    {domain : String} {e : Entry}
    (hentry : entryText (kind.ruleText domain) = .ok e.serialize.toList) {copies : Nat}
    (hlisted : es.count e = copies) (hsome : 1 ≤ copies) {b : Blocker}
    (htext : b.text = serializeEntries es) (hcount : b.count = es.length)
    (htotal : (es.length : Int) ≤ b.total) :
    let others := es.filter (· ≠ e)
    ∃ left, b.remove kind domain = .ok left ∧
      (left.text = (if others = [] then placeholder else serializeEntries others) ↔
        ¬ [e, e] <+: es ∧ ¬ [e, e] <:+ es) ∧
      (¬ [e, e] <+: es → ¬ [e, e] <:+ es →
        left.count = b.count - copies ∧ left.total = b.total - copies ∧
          (others = [] → left.count = 0)) := by
  intro others
  subst hlisted
  have hmem : e ∈ es := List.count_pos_iff.1 hsome
  have hothers : entriesWithout e es = others := entriesWithout_eq_filter hcommas e
  have hlength : others.length + es.count e = es.length := hothers ▸ length_entriesWithout e es
  by_cases hgap : LeavesGap e es
  · -- what is left cannot be read, but the text of entries can
    have hnone := readChars_textWithout hgap
    have hbrackets : textWithout e es ≠ ['[', ']'] := by
      intro heq
      rw [heq] at hnone
      cases hnone
    refine ⟨_, Blocker.removeRule_eq_of_mem hentry htext hmem, ?_, fun hstart hend => ?_⟩
    · rw [if_neg hbrackets]
      refine iff_of_false (fun heq => ?_) (fun h => hgap.elim h.1 h.2)
      refine read_entries_or_placeholder others ?_
      rw [← heq, Json.read, String.toList_ofList, hnone]
    · exact absurd hgap (not_or.2 ⟨hstart, hend⟩)
  · refine ⟨_, Blocker.removeRule_eq_of_not_leavesGap hentry htext hmem hgap, ?_, fun _ _ => ?_⟩
    · rw [hothers]
      refine iff_of_true ?_ (not_or.1 hgap)
      split <;> rfl
    · rw [hothers]
      split
      · rename_i hnone
        rw [hnone, List.length_nil] at hlength
        exact ⟨by dsimp only; omega, by dsimp only; omega, fun _ => rfl⟩
      · rename_i hne
        exact ⟨rfl, rfl, fun hnone => absurd hnone hne⟩

/-- Four copies are removed: one at each end and two next to each other between the others. -/
theorem removed_without_trace_of_four_copies :
    let e := AllowKind.onSite.siteEntry "example.org"
    let other := AllowKind.offSite.siteEntry "example.net"
    let es := [e, other, e, e, placeholderEntry, e]
    let b : Blocker := ⟨serializeEntries es, 6, 9⟩
    (¬ [',', ','] <:+: (serializeEntries es).toList) ∧ es.count e = 4 ∧
      ∃ left, b.remove .onSite "example.org" = .ok left ∧
        left.text = serializeEntries [other, placeholderEntry] ∧ left.count = 2 ∧
        left.total = 5 := by
  intro e other es b
  have hother : other ≠ e := fun heq => nomatch (AllowKind.siteEntry_injective heq).1
  have hplaceholder : placeholderEntry ≠ e := (AllowKind.siteEntry_ne_placeholderEntry _ _).symm
  have hcommas : ¬ [',', ','] <:+: (serializeEntries es).toList := by
    rw [← Text.occursIn_iff, toList_serializeEntries]
    decide +kernel
  have hlisted : es.count e = 4 := by
    simp [es, hother, hplaceholder]
  have hothers : es.filter (· ≠ e) = [other, placeholderEntry] := by
    simp [es, hother, hplaceholder]
  have hstart : ¬ [e, e] <+: es := by
    simp [es, List.cons_prefix_cons, hother.symm]
  have hend : ¬ [e, e] <:+ es := by
    rw [← List.reverse_prefix]
    simp [es, List.cons_prefix_cons, hplaceholder.symm]
  have hsite : IsSite "example.org" := by decide
  obtain ⟨left, hremove, htext, hcounts⟩ := removed_without_trace_iff hcommas
    (AllowKind.entryText_ruleText hsite .onSite) hlisted (by decide) (b := b) rfl rfl (by decide)
  obtain ⟨hcount, htotal, -⟩ := hcounts hstart hend
  refine ⟨hcommas, hlisted, left, hremove, ?_, hcount, htotal⟩
  rw [htext.2 ⟨hstart, hend⟩, hothers, if_neg (List.cons_ne_nil _ _)]

end ContentBlocker
