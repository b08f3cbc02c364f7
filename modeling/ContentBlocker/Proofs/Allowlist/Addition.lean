import ContentBlocker.Proofs.Allowlist.Restore

/-!
# What is added to the content blocker of a conversion

A rule for a site that is added to the content blocker of a conversion comes to stand behind the
entries of the list, and the counts grow by one.  There are two exceptions (`added_behind_iff`).

A content blocker counts as empty if its text is that of the placeholder, and the added entry then
comes in place of what there was.  But a list may have a rule whose entry is the same as the
placeholder, and that one is lost (`addition_replaces_entry`).  And the name of a site with a line
feed in it is several lines, which can have several entries: they are all added, and counted as one.
-/

set_option autoImplicit false
namespace ContentBlocker

theorem serializeEntries_eq_placeholder_iff {es : List Entry} :
    serializeEntries es = placeholder ↔ es = [placeholderEntry] :=
  ⟨fun h => serializeEntries_injective h, fun h => congrArg serializeEntries h⟩

section
variable {base : ConversionResult} {old : List Entry}
  (hcount : base.convertedCount = old.length) (htext : base.converted = serializeEntries old)
  (hold : old ≠ [])
include hcount htext hold

/-- The content blocker of some rules counts as empty exactly if its one entry is that of the
placeholder. -/
theorem isEmpty_blocker_iff : base.blocker.isEmpty = true ↔ old = [placeholderEntry] := by
  have hpos : base.blocker.count ≠ 0 := by
    show (base.convertedCount : Int) ≠ 0
    rw [hcount]
    exact mt Int.natCast_eq_zero.1 (mt List.length_eq_zero_iff.1 hold)
  rw [Blocker.isEmpty, Bool.or_eq_true, beq_iff_eq, beq_iff_eq, or_iff_right hpos,
    ConversionResult.text_blocker, htext, serializeEntries_eq_placeholder_iff]

/-- **What is added to the content blocker of some rules stands behind their entries**, or in place
of a single one that is the same as the placeholder. -/
theorem addRule_blocker {rule : String} {added : Blocker}
    (hadd : base.blocker.addRule rule = .ok added) :
    entriesOfText rule ≠ [] ∧
      added = if old = [placeholderEntry] then
          ⟨serializeEntries (entriesOfText rule), 1, base.totalConvertedCount + 1⟩
        else
          ⟨serializeEntries (old ++ entriesOfText rule), base.convertedCount + 1,
            base.totalConvertedCount + 1⟩ := by
  obtain ⟨entry, hentry, habsent⟩ := Blocker.exists_of_addRule hadd
  obtain ⟨hnew, hchars⟩ := entryText_eq_ok_iff.1 hentry
  rw [hchars] at hentry habsent
  refine ⟨hnew, ?_⟩
  rw [Blocker.addRule_eq_of_entries hentry hnew htext hold habsent] at hadd
  rw [← Except.ok.inj hadd]
  simp only [isEmpty_blocker_iff hcount htext hold]
  rfl

theorem read_addRule_of_ne (hne : old ≠ [placeholderEntry]) {rule : String} {added : Blocker}
    (hadd : base.blocker.addRule rule = .ok added) :
    Json.read added.text = some (.arr ((old ++ entriesOfText rule).map Entry.toJson)) ∧
      added.count = base.convertedCount + 1 := by
  rw [(addRule_blocker hcount htext hold hadd).2, if_neg hne]
  exact ⟨read_serializeEntries _, rfl⟩

theorem read_addRule_of_eq (heq : old = [placeholderEntry]) {rule : String} {added : Blocker}
    (hadd : base.blocker.addRule rule = .ok added) :
    Json.read added.text = some (.arr ((entriesOfText rule).map Entry.toJson)) ∧
      added.count = 1 := by
  rw [(addRule_blocker hcount htext hold hadd).2, if_pos heq]
  exact ⟨read_serializeEntries _, rfl⟩

end

/-- **What is added comes behind what there was**, and the counts grow by one, exactly if the content
blocker is not one entry that is the same as the placeholder and one entry is added.  The entries of
the added text stand behind the others in any case but the first, in which they are all there is; a
domain without a line feed in it has one entry. -/
theorem added_behind_iff (lines : List String) (kind : AllowKind) (domain : String) :
    ∃ base, convertLines lines {} = .ok base ∧
      let old := entriesOfText (Text.unlines lines)
      let new := entriesOfText (kind.ruleText domain)
      base.convertedCount = old.length ∧
      (0 < base.convertedCount →
        Json.read base.converted = some (.arr (old.map Entry.toJson)) ∧
        ∀ added, base.blocker.add kind domain = .ok added →
          new ≠ [] ∧ ('\n' ∉ domain.toList → new.length = 1) ∧
          added.total = base.totalConvertedCount + 1 ∧
          (old ≠ [placeholderEntry] →
            Json.read added.text = some (.arr ((old ++ new).map Entry.toJson)) ∧
            added.count = base.convertedCount + 1) ∧
          (old = [placeholderEntry] →
            Json.read added.text = some (.arr (new.map Entry.toJson)) ∧ added.count = 1) ∧
          ((∃ e, new = [e] ∧
              Json.read added.text = some (.arr ((old ++ [e]).map Entry.toJson)) ∧
              added.count = base.convertedCount + 1 ∧
              added.total = base.totalConvertedCount + 1) ↔
            old ≠ [placeholderEntry] ∧ new.length = 1)) := by
  have hbase := convertLines_default lines
  have hcount := convertedCount_ofText (Text.unlines lines)
  have htext := converted_ofText (Text.unlines lines)
  generalize ConversionResult.ofList _ _ _ = base at hbase hcount htext
  refine ⟨base, hbase, ?_⟩
  intro old new
  refine ⟨hcount, fun hpos => ?_⟩
  have hold : old ≠ [] := by
    rw [hcount] at hpos
    exact List.length_pos_iff.1 hpos
  rw [if_neg hold] at htext
  refine ⟨by rw [htext, read_serializeEntries], fun added hadd => ?_⟩
  obtain ⟨hnew, hadded⟩ := addRule_blocker hcount htext hold hadd
  have htotal : added.total = base.totalConvertedCount + 1 := by
    rw [hadded]
    split <;> rfl
  have hbehind (hne : old ≠ [placeholderEntry]) := read_addRule_of_ne hcount htext hold hne hadd
  have halone (heq : old = [placeholderEntry]) := read_addRule_of_eq hcount htext hold heq hadd
  refine ⟨hnew, fun hline => ?_, htotal, hbehind, halone, ?_, ?_⟩
  · have hrule := AllowKind.not_mem_ruleText hline (by decide) kind
    exact Nat.le_antisymm (length_entriesOfText_le hrule) (List.length_pos_iff.2 hnew)
  · rintro ⟨e, he, hread, -⟩
    have hlength : new.length = 1 := by rw [he, List.length_singleton]
    refine ⟨fun heq => ?_, hlength⟩
    -- in place of the placeholder there is one entry, behind it there would be two
    have harrays := Json.arr.inj (Option.some.inj ((halone heq).1.symm.trans hread))
    have hlengths := congrArg List.length harrays
    rw [List.length_map, List.length_map, List.length_append, heq, hlength] at hlengths
    cases hlengths
  · rintro ⟨hne, hlength⟩
    obtain ⟨e, he⟩ := List.length_eq_one_iff.1 hlength
    obtain ⟨hread, hsum⟩ := hbehind hne
    exact ⟨e, he, by rw [hread, ← he], hsum, htotal⟩

theorem hidingEntry_ne_of_ignorePrevious {selector : String} {e : Entry}
    (h : e.action.type = .ignorePrevious) : hidingEntry selector ≠ e := by
  rintro rfl
  cases h

theorem entries_of_class :
    (Sorting.ofRules false (FilterList.ofText (Text.unlines ["##.ad"])).rules).entries =
      [hidingEntry ".ad"] := by
  decide +kernel

theorem entriesOfText_of_class : entriesOfText (Text.unlines ["##.ad"]) = [hidingEntry ".ad"] :=
  entriesOfText_of_entries (by decide) entries_of_class

/-- Behind the entry of a selector. -/
theorem added_behind_iff_of_class : ∃ base added, convertLines ["##.ad"] {} = .ok base ∧
    0 < base.convertedCount ∧ base.blocker.add .onSite "example.org" = .ok added ∧
      Json.read added.text = some (.arr
        ([hidingEntry ".ad", AllowKind.onSite.siteEntry "example.org"].map Entry.toJson)) ∧
      added.count = 2 := by
  have hsite : IsSite "example.org" := by decide
  have hne : [hidingEntry ".ad"] ≠ [placeholderEntry] :=
    mt List.singleton_inj.1 (hidingEntry_ne_of_ignorePrevious rfl)
  obtain ⟨base, hbase, hcount, hadds⟩ := added_behind_iff ["##.ad"] .onSite "example.org"
  rw [entriesOfText_of_class] at hcount hadds
  have hpos : 0 < base.convertedCount := by rw [hcount]; exact Nat.one_pos
  obtain ⟨-, hadds⟩ := hadds hpos
  obtain rfl := Except.ok.inj (hbase.symm.trans (convertLines_default _))
  obtain ⟨added, hadded⟩ := exists_add_of_hidingEntry entries_of_class hsite .onSite
  obtain ⟨-, -, -, hbehind, -, -⟩ := hadds added hadded
  obtain ⟨hread, hsum⟩ := hbehind hne
  rw [AllowKind.entriesOfText_ruleText hsite] at hread
  exact ⟨_, added, hbase, hpos, hadded, hread, by rw [hsum, hcount]; rfl⟩

/-- **An entry that is the same as the placeholder is lost** when another one is added. -/
theorem addition_replaces_entry : ¬ ∀ lines kind domain base, convertLines lines {} = .ok base →
    0 < base.convertedCount → ∀ added, base.blocker.add kind domain = .ok added →
      ∃ old e, entriesOfText (kind.ruleText domain) = [e] ∧
        Json.read base.converted = some (.arr old) ∧
        Json.read added.text = some (.arr (old ++ [e.toJson])) ∧
        added.count = base.convertedCount + 1 ∧ added.total = base.totalConvertedCount + 1 := by
  intro hall
  have hsite : IsSite "example.org" := by decide
  have hold : entriesOfText (Text.unlines ["domain.com#@#.ad"]) = [placeholderEntry] :=
    entriesOfText_of_entries (by decide) (by decide +kernel)
  have hbase := convertLines_default ["domain.com#@#.ad"]
  have hcount := convertedCount_ofText (Text.unlines ["domain.com#@#.ad"])
  have htext := converted_ofText (Text.unlines ["domain.com#@#.ad"])
  generalize ConversionResult.ofList _ _ _ = base at hbase hcount htext
  rw [hold] at hcount htext
  have hpos : 0 < base.convertedCount := by rw [hcount]; exact Nat.one_pos
  obtain ⟨added, hadded⟩ : ∃ added, base.blocker.add .onSite "example.org" = .ok added :=
    (Blocker.addRule_eq_ok_iff (AllowKind.entryText_ruleText hsite .onSite) htext).2 fun hmem =>
      AllowKind.siteEntry_ne_placeholderEntry _ _ (List.mem_singleton.1 hmem)
  obtain ⟨old, e, -, hread, hreadAdded, -⟩ := hall _ .onSite "example.org" base hbase hpos added hadded
  -- the added entry stands in place of the other one, so the array has one element, not two
  obtain ⟨-, heq⟩ := addRule_blocker hcount htext (List.cons_ne_nil _ _) hadded
  rw [htext, if_neg (List.cons_ne_nil _ _), read_serializeEntries] at hread
  obtain rfl := Json.arr.inj (Option.some.inj hread)
  rw [heq, if_pos rfl, read_serializeEntries, AllowKind.entriesOfText_ruleText hsite] at hreadAdded
  have hlength := congrArg List.length (Json.arr.inj (Option.some.inj hreadAdded))
  cases hlength

end ContentBlocker
