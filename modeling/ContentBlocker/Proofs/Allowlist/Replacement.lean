import ContentBlocker.Proofs.Allowlist.EntryEdit

/-!
# Replacing a rule and taking it back

The replacement of one rule by another exchanges the entries of a content blocker one by one
(`exchange`): every copy of the old entry becomes the new one, the others stay where they are, and
there are as many as before.

To take it back is to replace the new rule by the old one.  That exchanges the copies that the
replacement has made, but also those that were listed before.  So the content blocker is as it was
exactly if there were none of these (`exchange_exchange_eq_self_iff`), or if nothing was to be
exchanged, because both rules have the same entry.
-/

set_option autoImplicit false
namespace ContentBlocker

/-! ## Lists of entries -/

/-- The entries with one put in place of every copy of another. -/
def exchange (old new : Entry) (es : List Entry) : List Entry :=
  es.map fun e => if e = old then new else e

section
variable {old new : Entry} {es : List Entry}

theorem exchange_self (e : Entry) (es : List Entry) : exchange e e es = es := by
  have hkeep : ∀ d ∈ es, (if d = e then e else d) = d := by
    intro d _
    split
    · rename_i hd
      exact hd.symm
    · rfl
  rw [exchange, List.map_congr_left hkeep, List.map_id']

theorem mem_exchange (h : old ∈ es) : new ∈ exchange old new es :=
  List.mem_map.2 ⟨old, h, if_pos rfl⟩

/-- No copy of what is replaced is left. -/
theorem not_mem_exchange (hne : old ≠ new) : old ∉ exchange old new es := by
  intro hmem
  obtain ⟨e, -, he⟩ := List.mem_map.1 hmem
  split at he
  · exact hne he.symm
  · rename_i hold
    exact hold he

theorem exchange_exchange_of_not_mem (h : new ∉ es) :
    exchange new old (exchange old new es) = es := by
  have hback : ∀ e ∈ es,
      ((fun d => if d = new then old else d) ∘ fun d => if d = old then new else d) e = e := by
    intro e he
    rw [Function.comp_apply]
    by_cases hold : e = old
    · rw [if_pos hold, if_pos rfl, hold]
    · rw [if_neg hold, if_neg fun hnew : e = new => h (hnew ▸ he)]
  rw [exchange, exchange, List.map_map, List.map_congr_left hback, List.map_id']

/-- **What was exchanged is exchanged back exactly if the new entry was not listed before.** -/
theorem exchange_exchange_eq_self_iff :
    exchange new old (exchange old new es) = es ↔ (new ∈ es → new = old) := by
  constructor
  · intro hback hmem
    by_contra hne
    rw [← hback] at hmem
    exact not_mem_exchange hne hmem
  · intro h
    by_cases hmem : new ∈ es
    · rw [h hmem, exchange_self, exchange_self]
    · exact exchange_exchange_of_not_mem hmem

end

/-! ## Content blockers -/

/-- **A replacement changes the entries one by one, and the opposite one takes it back** exactly if
the new entry was not among them, or is the old one.  The counts stay as they are. -/
theorem replacement_undone_iff {es : List Entry} {b : Blocker} (htext : b.text = serializeEntries es)
    {rule newRule : String} {old new : Entry} (hold : entryText rule = .ok old.serialize.toList)
    (hnew : entryText newRule = .ok new.serialize.toList) (hmem : old ∈ es) :
    ∃ replaced, b.replace rule newRule = .ok replaced ∧
      replaced.text = serializeEntries (es.map fun e => if e = old then new else e) ∧
      replaced.count = b.count ∧ replaced.total = b.total ∧
      (replaced.replace newRule rule = .ok b ↔ (new ∈ es → new = old)) := by
  let replaced : Blocker := { b with text := serializeEntries (exchange old new es) }
  have hreplace : b.replace rule newRule = .ok replaced :=
    Blocker.replace_eq_ok hold htext hmem hnew
  have hback : replaced.replace newRule rule =
      .ok { b with text := serializeEntries (exchange new old (exchange old new es)) } :=
    Blocker.replace_eq_ok hnew (b := replaced) rfl (mem_exchange hmem) hold
  refine ⟨replaced, hreplace, rfl, rfl, rfl, ?_⟩
  rw [hback, ← exchange_exchange_eq_self_iff]
  constructor
  · intro heq
    exact serializeEntries_injective ((congrArg Blocker.text (Except.ok.inj heq)).trans htext)
  · intro heq
    rw [heq, ← htext]

/-- Both copies of a rule for a site are replaced, and taken back. -/
theorem replacement_undone_of_two_copies :
    let old := AllowKind.offSite.siteEntry "example.org"
    let new := AllowKind.onSite.siteEntry "example.org"
    let b : Blocker := ⟨serializeEntries [old, placeholderEntry, old], 3, 3⟩
    ∃ replaced, b.replace (AllowKind.offSite.ruleText "example.org")
        (AllowKind.onSite.ruleText "example.org") = .ok replaced ∧
      replaced.text = serializeEntries [new, placeholderEntry, new] ∧ replaced.count = 3 ∧
      replaced.replace (AllowKind.onSite.ruleText "example.org")
        (AllowKind.offSite.ruleText "example.org") = .ok b := by
  intro old new b
  have hplaceholder : placeholderEntry ≠ old :=
    (AllowKind.siteEntry_ne_placeholderEntry _ _).symm
  have hkinds : new ≠ old := by
    intro heq
    cases (AllowKind.siteEntry_injective heq).1
  have hnew : new ∉ [old, placeholderEntry, old] := by
    simp [hkinds, AllowKind.siteEntry_ne_placeholderEntry, new]
  have hsite : IsSite "example.org" := by decide
  obtain ⟨replaced, hreplace, htext, hcount, -, hback⟩ := replacement_undone_iff (b := b) rfl
    (AllowKind.entryText_ruleText hsite .offSite) (AllowKind.entryText_ruleText hsite .onSite)
    List.mem_cons_self
  refine ⟨replaced, hreplace, ?_, hcount, hback.2 fun hmem => absurd hmem hnew⟩
  rw [htext]
  simp [hplaceholder, old, new]

end ContentBlocker
