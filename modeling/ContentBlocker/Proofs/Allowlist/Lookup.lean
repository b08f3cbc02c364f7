import ContentBlocker.Allowlist.Edit
import ContentBlocker.Proofs.Allowlist.SiteRule
import ContentBlocker.Proofs.Entry.Placement

/-!
# Looking a rule up in the text of a content blocker

The edits of a content blocker look for the text of an entry in the text of all entries.  Here it is
shown that this finds the entry exactly where it is listed (`found_exactly_where_listed`): never
inside another entry, never across two of them, and once for each time that it is listed.

The edits are first put into a form in which they are told by the text of the entry alone
(`addRule_eq`, `removeRule_eq`, `replace_eq`).
-/

set_option autoImplicit false
namespace ContentBlocker

open Text (occursIn pieces placeCount replaceChars)

namespace Blocker

section
variable {rule : String} {entry : List Char} (h : entryText rule = .ok entry) (b : Blocker)
include h

theorem addRule_eq : b.addRule rule =
    if occursIn entry b.text.toList then .error (.present rule)
    else if b.isEmpty then .ok ⟨String.ofList ('[' :: entry ++ [']']), 1, b.total + 1⟩
    else .ok ⟨String.ofList (b.text.toList.dropLast ++ ',' :: entry ++ [']']), b.count + 1,
      b.total + 1⟩ := by
  rw [addRule, h]
  rfl

theorem removeRule_eq : b.removeRule rule =
    if occursIn entry b.text.toList then
      let removed : Int := (pieces entry b.text.toList).length - 1
      let text := repairCommas (replaceChars entry [] b.text.toList)
      if text = ['[', ']'] then .ok ⟨placeholder, 0, max 0 (b.total - removed)⟩
      else .ok ⟨String.ofList text, b.count - removed, b.total - removed⟩
    else .error (.absent rule) := by
  rw [removeRule, h, ← Text.flatten_pieces]
  rfl

theorem replace_eq (newRule : String) : b.replace rule newRule =
    if occursIn entry b.text.toList then
      (entryText newRule).map fun newEntry =>
        { b with text := String.ofList (replaceChars entry newEntry b.text.toList) }
    else .error (.absent rule) := by
  rw [replace, h]
  cases hnew : entryText newRule <;> rfl

end

/-! ## What an edit that succeeds has found -/

section
variable {rule newRule : String} {b b' : Blocker}

theorem exists_of_addRule (h : b.addRule rule = .ok b') :
    ∃ entry, entryText rule = .ok entry ∧ occursIn entry b.text.toList = false := by
  cases hentry : entryText rule with
  | error err =>
    rw [addRule, hentry] at h
    cases h
  | ok entry =>
    refine ⟨entry, rfl, Bool.eq_false_iff.2 fun hin => ?_⟩
    rw [addRule_eq hentry, if_pos hin] at h
    cases h

theorem exists_of_removeRule (h : b.removeRule rule = .ok b') :
    ∃ entry, entryText rule = .ok entry ∧ occursIn entry b.text.toList = true := by
  cases hentry : entryText rule with
  | error err =>
    rw [removeRule, hentry] at h
    cases h
  | ok entry =>
    refine ⟨entry, rfl, Classical.byContradiction fun hin => ?_⟩
    rw [removeRule_eq hentry, if_neg hin] at h
    cases h

theorem exists_of_replace (h : b.replace rule newRule = .ok b') : ∃ entry newEntry,
    entryText rule = .ok entry ∧ entryText newRule = .ok newEntry ∧
      occursIn entry b.text.toList = true := by
  cases hentry : entryText rule with
  | error err =>
    rw [replace, hentry] at h
    cases h
  | ok entry =>
    rw [replace_eq hentry] at h
    split at h
    · rename_i hin
      obtain ⟨newEntry, hnew, -⟩ := map_eq_ok_iff.1 h
      exact ⟨entry, newEntry, rfl, hnew, hin⟩
    · cases h

end

/-! ## Whether a rule is found -/

/-- The text of an entry is found in a content blocker exactly if the entry is listed. -/
theorem occursIn_text {b : Blocker} {es : List Entry} (htext : b.text = serializeEntries es)
    (e : Entry) : occursIn e.serialize.toList b.text.toList = true ↔ e ∈ es := by
  rw [htext, e.toList_serialize, occursIn_serializeEntries]

section
variable {rule : String} {e : Entry} {es : List Entry} {b : Blocker}
  (h : entryText rule = .ok e.serialize.toList) (htext : b.text = serializeEntries es)
include h htext

theorem addRule_eq_error_iff : b.addRule rule = .error (.present rule) ↔ e ∈ es := by
  rw [addRule_eq h, ← occursIn_text htext]
  by_cases hin : occursIn e.serialize.toList b.text.toList = true
  · rw [if_pos hin]
    exact iff_of_true rfl hin
  · rw [if_neg hin]
    split <;> simp [hin]

theorem addRule_eq_ok_iff : (∃ b', b.addRule rule = .ok b') ↔ e ∉ es := by
  rw [addRule_eq h, ← occursIn_text htext]
  by_cases hin : occursIn e.serialize.toList b.text.toList = true
  · rw [if_pos hin]
    simp [hin]
  · rw [if_neg hin]
    split <;> simp [hin]

theorem removeRule_eq_error_iff : b.removeRule rule = .error (.absent rule) ↔ e ∉ es := by
  rw [removeRule_eq h, ← occursIn_text htext]
  by_cases hin : occursIn e.serialize.toList b.text.toList = true
  · rw [if_pos hin]
    dsimp only
    split <;> simp [hin]
  · rw [if_neg hin]
    exact iff_of_true rfl hin

theorem removeRule_eq_ok_iff : (∃ b', b.removeRule rule = .ok b') ↔ e ∈ es := by
  rw [removeRule_eq h, ← occursIn_text htext]
  by_cases hin : occursIn e.serialize.toList b.text.toList = true
  · rw [if_pos hin]
    dsimp only
    split <;> simp [hin]
  · rw [if_neg hin]
    simp [hin]

/-- That the new rule has no entry is another error than that the old one is absent. -/
theorem replace_eq_error_iff (newRule : String) :
    b.replace rule newRule = .error (.absent rule) ↔ e ∉ es := by
  rw [replace_eq h, ← occursIn_text htext]
  by_cases hin : occursIn e.serialize.toList b.text.toList = true
  · rw [if_pos hin]
    refine iff_of_false ?_ (not_not_intro hin)
    cases hnew : entryText newRule with
    | ok newEntry => exact fun heq => nomatch heq
    | error err =>
      have herr : err ≠ .absent rule := by
        rintro rfl
        simp only [entryText] at hnew
        split at hnew <;> simp at hnew
      exact fun heq => herr (Except.error.inj heq)
  · rw [if_neg hin]
    exact iff_of_true rfl hin

theorem replace_eq_ok_iff {newRule : String} {newEntry : List Char}
    (hnew : entryText newRule = .ok newEntry) :
    (∃ b', b.replace rule newRule = .ok b') ↔ e ∈ es := by
  rw [replace_eq h, ← occursIn_text htext, hnew]
  by_cases hin : occursIn e.serialize.toList b.text.toList = true
  · rw [if_pos hin]
    exact iff_of_true ⟨_, rfl⟩ hin
  · rw [if_neg hin]
    simp [hin]

end
end Blocker

/-! ## Lookup agrees with membership -/

/-- **The text of an entry is found exactly where the entry is listed.**  An occurrence is a whole
element of the array whose written form is that of the entry; there is one for each such element,
and no two overlap.  So the edits of a content blocker refuse, find and count by membership. -/
theorem found_exactly_where_listed (es : List Entry) (e : Entry) :
    (∀ before after, (serializeEntries es).toList = before ++ e.serialize.toList ++ after ↔
      ∃ front d back, es = front ++ d :: back ∧ d.toJson = e.toJson ∧
        before = textBefore front ∧ after = textAfter back) ∧
    (∀ d : Entry, d.toJson = e.toJson ↔ d = e) ∧
    placeCount e.serialize.toList (serializeEntries es).toList = es.count e ∧
    (∀ before after before' after',
      (serializeEntries es).toList = before ++ e.serialize.toList ++ after →
      (serializeEntries es).toList = before' ++ e.serialize.toList ++ after' →
      before.length < before'.length →
      before.length + e.serialize.toList.length ≤ before'.length) ∧
    (pieces e.serialize.toList (serializeEntries es).toList).length = es.count e + 1 ∧
    ∀ b : Blocker, b.text = serializeEntries es →
      (∀ kind domain, entryText (AllowKind.ruleText kind domain) = .ok e.serialize.toList →
        (b.add kind domain = .error (.present (kind.ruleText domain)) ↔ e ∈ es) ∧
        ((∃ b', b.add kind domain = .ok b') ↔ e ∉ es) ∧
        (b.remove kind domain = .error (.absent (kind.ruleText domain)) ↔ e ∉ es) ∧
        ((∃ b', b.remove kind domain = .ok b') ↔ e ∈ es)) ∧
      (∀ rule newRule, entryText rule = .ok e.serialize.toList →
        (b.replace rule newRule = .error (.absent rule) ↔ e ∉ es) ∧
        ∀ newEntry, entryText newRule = .ok newEntry →
          ((∃ b', b.replace rule newRule = .ok b') ↔ e ∈ es)) := by
  rw [e.toList_serialize]
  refine ⟨fun before after => ?_, fun d => Entry.toJson_inj, placeCount_serializeEntries e es,
    fun _ _ _ _ h h' hlt => Nat.le_of_lt (length_lt_of_serializeEntries_eq h h' hlt),
    length_pieces_serializeEntries e es, fun b htext => ⟨fun kind domain h => ?_, ?_⟩⟩
  · rw [serializeEntries_eq_iff]
    constructor
    · rintro ⟨front, back, hes, hbefore, hafter⟩
      exact ⟨front, e, back, hes, rfl, hbefore, hafter⟩
    · rintro ⟨front, d, back, hes, hd, hbefore, hafter⟩
      rw [Entry.toJson_injective hd] at hes
      exact ⟨front, back, hes, hbefore, hafter⟩
  · rw [← e.toList_serialize] at h
    exact ⟨Blocker.addRule_eq_error_iff h htext, Blocker.addRule_eq_ok_iff h htext,
      Blocker.removeRule_eq_error_iff h htext, Blocker.removeRule_eq_ok_iff h htext⟩
  · intro rule newRule h
    rw [← e.toList_serialize] at h
    exact ⟨Blocker.replace_eq_error_iff h htext newRule,
      fun _ hnew => Blocker.replace_eq_ok_iff h htext hnew⟩

/-- Listed twice, the entry of a rule for a site is found twice, and can be removed or replaced. -/
theorem found_twice_where_listed_twice :
    let e := AllowKind.offSite.siteEntry "example.org"
    let es := [e, placeholderEntry, e]
    let b : Blocker := ⟨serializeEntries es, 3, 3⟩
    placeCount e.serialize.toList (serializeEntries es).toList = 2 ∧
      (∃ b', b.remove .offSite "example.org" = .ok b') ∧
      ∃ b', b.replace (AllowKind.offSite.ruleText "example.org")
        (AllowKind.onSite.ruleText "example.org") = .ok b' := by
  intro e es b
  have hne : (placeholderEntry == e) = false :=
    beq_eq_false_iff_ne.2 (AllowKind.siteEntry_ne_placeholderEntry _ _).symm
  have hcount : es.count e = 2 := by
    rw [List.count_cons_self, List.count_cons, hne, List.count_singleton_self]
    rfl
  have hsite : IsSite "example.org" := by decide
  have hrule := AllowKind.entryText_ruleText hsite .offSite
  have hnew := AllowKind.entryText_ruleText hsite .onSite
  obtain ⟨-, -, hplaces, -, -, hedits⟩ := found_exactly_where_listed es e
  obtain ⟨hsites, hreplace⟩ := hedits b rfl
  obtain ⟨-, -, -, hremove⟩ := hsites .offSite "example.org" hrule
  refine ⟨hplaces.trans hcount, hremove.2 List.mem_cons_self, ?_⟩
  exact ((hreplace _ _ hrule).2 _ hnew).2 List.mem_cons_self

end ContentBlocker
