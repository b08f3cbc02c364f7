import ContentBlocker.Proofs.Allowlist.EntryEdit
import ContentBlocker.Proofs.Conversion.Accounting

/-!
# Adding the rule for a site and removing it again

The rule for a site that is added to the content blocker of a conversion can be removed again.  What
that gives is told by `Blocker.removeRule_addRule`, and it is the content blocker of the conversion
except in two cases (`removed_again_iff`).

The first is that two commas stand next to each other in a string of some entry, in a selector
or in a regular expression say: the repair of the commas between the entries makes one of them
(`removal_shortens_selector`).  The second is that the list has a single rule whose entry is that of
the placeholder: the content blocker counts as empty, so the added entry comes in place of it, and
after the removal there is a placeholder, which is not counted.
-/

set_option autoImplicit false
namespace ContentBlocker

open Text (occursIn)

/-! ## A rule that is added and removed -/

theorem squeezeCommas_placeholder : squeezeCommas placeholder.toList = placeholder.toList :=
  squeezeCommas_eq_self (by rw [placeholder, toList_serializeEntries]; decide +kernel)

namespace Blocker

/-- A content blocker after a rule has been added and removed again. -/
def restored (b : Blocker) : Blocker where
  text := String.ofList (squeezeCommas b.text.toList)
  count := if b.text = placeholder then 0 else b.count
  total := b.total

/-- What has been added is removed without a trace, but for the commas and for a placeholder that was
counted. -/
theorem restored_eq_self_iff {b : Blocker} : b.restored = b ↔
    occursIn [',', ','] b.text.toList = false ∧ (b.text = placeholder → b.count = 0) := by
  have htext : String.ofList (squeezeCommas b.text.toList) = b.text ↔
      occursIn [',', ','] b.text.toList = false := by
    rw [← String.toList_inj, String.toList_ofList, squeezeCommas_eq_self_iff]
  have hcount : (if b.text = placeholder then 0 else b.count) = b.count ↔
      (b.text = placeholder → b.count = 0) := by
    split
    · rename_i hplaceholder
      exact ⟨fun h _ => h.symm, fun h => (h hplaceholder).symm⟩
    · rename_i hplaceholder
      exact iff_of_true rfl fun h => absurd h hplaceholder
  obtain ⟨text, count, total⟩ := b
  rw [restored, Blocker.mk.injEq, htext, hcount, and_iff_left rfl]

section
variable {rule : String} {e : Entry} {es : List Entry} {b added : Blocker}
  (h : entryText rule = .ok e.serialize.toList) (htext : b.text = serializeEntries es)
  (hne : es ≠ []) (hcount : b.count = 0 → b.text = placeholder) (htotal : 0 ≤ b.total)
include h htext hne hcount htotal

/-- **A rule that has been added can be removed.** -/
theorem removeRule_addRule (hadd : b.addRule rule = .ok added) :
    added.removeRule rule = .ok b.restored := by
  have hmem : e ∉ es := (addRule_eq_ok_iff h htext).1 ⟨added, hadd⟩
  have hempty : b.isEmpty = true ↔ b.text = placeholder := by
    rw [isEmpty, Bool.or_eq_true, beq_iff_eq, beq_iff_eq]
    exact or_iff_right_of_imp hcount
  rw [addRule_eq_ok h htext hne hmem] at hadd
  obtain rfl := Except.ok.inj hadd
  by_cases hplaceholder : b.text = placeholder
  · have hsingle : (⟨serializeEntries [e], 1, b.total + 1⟩ : Blocker).text =
        serializeEntries ([] ++ e :: []) := rfl
    have hremove := removeRule_eq_ok h hsingle List.not_mem_nil List.not_mem_nil
    rw [List.append_nil, if_pos rfl] at hremove
    rw [if_pos (hempty.2 hplaceholder), hremove, restored, if_pos hplaceholder, hplaceholder,
      squeezeCommas_placeholder, String.ofList_toList, Int.add_sub_cancel, Int.max_eq_right htotal]
  · have hconcat : (⟨serializeEntries (es ++ [e]), b.count + 1, b.total + 1⟩ : Blocker).text =
        serializeEntries (es ++ e :: []) := rfl
    have hremove := removeRule_eq_ok h hconcat hmem List.not_mem_nil
    rw [List.append_nil, if_neg hne] at hremove
    rw [if_neg (mt hempty.1 hplaceholder), hremove, restored, if_neg hplaceholder, htext,
      Int.add_sub_cancel, Int.add_sub_cancel]

end
end Blocker

/-! ## Content blockers of conversions -/

theorem ConversionResult.text_blocker (result : ConversionResult) :
    result.blocker.text = result.converted :=
  rfl

section
variable {domain : String} (hsite : IsSite domain) (list : FilterList) (limit : Nat)
  (advancedBlocking : Bool) (kind : AllowKind)
include hsite

/-- The rule for a site that has been added to the content blocker of a conversion can be removed. -/
theorem ConversionResult.remove_add {added : Blocker}
    (hadd : (ofList list limit advancedBlocking).blocker.add kind domain = .ok added) :
    added.remove kind domain = .ok (ofList list limit advancedBlocking).blocker.restored := by
  have hentry := AllowKind.entryText_ruleText hsite kind
  have htotal : 0 ≤ (ofList list limit advancedBlocking).blocker.total := Int.natCast_nonneg _
  by_cases hzero : (ofList list limit advancedBlocking).convertedCount = 0
  · have htext := converted_ofList_of_zero list limit advancedBlocking hzero
    exact Blocker.removeRule_addRule hentry htext (List.cons_ne_nil _ _) (fun _ => htext) htotal hadd
  · obtain ⟨es, hlength, htext⟩ := converted_ofList_of_ne_zero list limit advancedBlocking hzero
    refine Blocker.removeRule_addRule hentry htext ?_ (fun hcount => ?_) htotal hadd
    · rintro rfl
      exact hzero hlength.symm
    · exact absurd (Int.natCast_eq_zero.1 hcount) hzero

end

/-- **Removing what was added gives back the content blocker of the conversion**, with its text and
its counts, unless two commas stand next to each other in the text, or the text is that of the
placeholder and is counted.  The removal always succeeds, and otherwise the runs of commas have
become single commas, and the placeholder is not counted. -/
theorem removed_again_iff (lines : List String) (kind : AllowKind) {domain : String}
    (hsite : IsSite domain) :
    ∃ base, convertLines lines {} = .ok base ∧
      ∀ added, base.blocker.add kind domain = .ok added →
        ∃ restored, added.remove kind domain = .ok restored ∧
          restored.text = String.ofList (squeezeCommas base.converted.toList) ∧
          restored.count =
            (if base.converted = placeholder then 0 else (base.convertedCount : Int)) ∧
          restored.total = base.totalConvertedCount ∧
          (restored = base.blocker ↔ occursIn [',', ','] base.converted.toList = false ∧
            (base.converted = placeholder → base.convertedCount = 0)) := by
  have hresult := convertLines_default lines
  generalize FilterList.ofText (Text.unlines lines) = list at hresult
  generalize hbase : ConversionResult.ofList list maxEntries false = base at hresult
  refine ⟨base, hresult, fun added hadd => ⟨base.blocker.restored, ?_, rfl, rfl, rfl, ?_⟩⟩
  · rw [← hbase] at hadd ⊢
    exact ConversionResult.remove_add hsite list maxEntries false kind hadd
  · rw [Blocker.restored_eq_self_iff]
    exact and_congr_right' (imp_congr_right fun _ => Int.natCast_eq_zero)

/-! ## Lists of one selector -/

/-- The entry that hides what a selector selects, on every page. -/
def hidingEntry (selector : String) : Entry where
  trigger := { urlFilter := anyUrlFilter }
  action := { type := .hide, selector := some selector }

section
variable {list : FilterList} {selector : String}
  (hentries : (Sorting.ofRules false list.rules).entries = [hidingEntry selector])
include hentries

theorem converted_of_hidingEntry : (ConversionResult.ofList list maxEntries false).converted =
    serializeEntries [hidingEntry selector] := by
  rw [ConversionResult.ofList, ConversionResult.ofSorting, hentries]
  rfl

theorem exists_add_of_hidingEntry {domain : String} (hsite : IsSite domain) (kind : AllowKind) :
    ∃ added,
      (ConversionResult.ofList list maxEntries false).blocker.add kind domain = .ok added := by
  refine (Blocker.addRule_eq_ok_iff (AllowKind.entryText_ruleText hsite kind)
    (converted_of_hidingEntry hentries)).2 fun hmem => ?_
  have htype := congrArg (·.action.type) (List.mem_singleton.1 hmem)
  cases htype

end

theorem removed_again_iff_of_class : IsSite "example.org" ∧
    ∃ base added, convertLines ["##.ad"] {} = .ok base ∧
      base.blocker.add .onSite "example.org" = .ok added ∧
      added.remove .onSite "example.org" = .ok base.blocker := by
  have hsite : IsSite "example.org" := by decide
  have hentries : (Sorting.ofRules false (FilterList.ofText (Text.unlines ["##.ad"])).rules).entries =
      [hidingEntry ".ad"] := by decide +kernel
  have hconverted := converted_of_hidingEntry hentries
  have hcommas : occursIn [',', ','] (serializeEntries [hidingEntry ".ad"]).toList = false := by
    rw [toList_serializeEntries]
    decide +kernel
  have hplaceholder : serializeEntries [hidingEntry ".ad"] ≠ placeholder := by
    intro h
    have htype := congrArg (·.action.type) (List.singleton_inj.1 (serializeEntries_injective h))
    cases htype
  obtain ⟨base, hbase, hremove⟩ := removed_again_iff ["##.ad"] .onSite hsite
  obtain rfl := Except.ok.inj (hbase.symm.trans (convertLines_default _))
  obtain ⟨added, hadded⟩ := exists_add_of_hidingEntry hentries hsite .onSite
  obtain ⟨restored, hrestored, -, -, -, hiff⟩ := hremove added hadded
  rw [hconverted] at hiff
  obtain rfl := hiff.2 ⟨hcommas, fun h => absurd h hplaceholder⟩
  exact ⟨hsite, _, added, hbase, hadded, hrestored⟩

/-- **The commas of a selector are repaired as well**: of the two commas in this one there is one
after the rule for a site has been added and removed. -/
theorem removal_shortens_selector : ¬ ∀ lines kind domain, IsSite domain →
    ∀ base, convertLines lines {} = .ok base →
      ∀ added, base.blocker.add kind domain = .ok added →
        added.remove kind domain = .ok base.blocker := by
  intro hall
  have hsite : IsSite "example.org" := by decide
  have hentries : (Sorting.ofRules false
      (FilterList.ofText (Text.unlines ["##[title=\",,\"]"])).rules).entries =
        [hidingEntry "[title=\",,\"]"] := by decide +kernel
  have hcommas : occursIn [',', ','] (serializeEntries [hidingEntry "[title=\",,\"]"]).toList =
      true := by
    rw [toList_serializeEntries]
    decide +kernel
  obtain ⟨added, hadded⟩ := exists_add_of_hidingEntry hentries hsite .onSite
  have hself := hall _ .onSite "example.org" hsite _ (convertLines_default _) added hadded
  rw [ConversionResult.remove_add hsite _ _ _ .onSite hadded] at hself
  obtain ⟨hnone, -⟩ := Blocker.restored_eq_self_iff.1 (Except.ok.inj hself)
  rw [ConversionResult.text_blocker, converted_of_hidingEntry hentries, hcommas] at hnone
  cases hnone

end ContentBlocker
