import ContentBlocker.Proofs.Allowlist.Addition

/-!
# Runs of edits

A content blocker that comes of a conversion is an array, and its elements are counted, except for a
placeholder (`IsCountedArray`).  Edits keep it so, one after the other, but for two kinds of them
(`BlockerEdit.Breaks`).

The removal of a rule whose entry stands twice at the start or at the end of the array leaves a comma
next to a bracket, and the text is no array any more (`readChars_textWithout`).  And where the
placeholder is replaced by the entry of a rule, that entry is not counted.

What one edit does is told by `HoldsEntries.apply`, and what a run of edits does follows by induction
(`HoldsEntries.run`): every content blocker on the way is a counted array as long as no edit is of
one of these kinds, and no longer (`edits_keep_array_iff`).
-/

set_option autoImplicit false
namespace ContentBlocker

/-- An edit of a content blocker. -/
inductive BlockerEdit where
  | add (kind : AllowKind) (domain : String)
  | remove (kind : AllowKind) (domain : String)
  | replace (rule newRule : String)

namespace BlockerEdit

/-- What an edit does to a content blocker. -/
def apply (b : Blocker) : BlockerEdit → Except EditError Blocker
  | .add kind domain => b.add kind domain
  | .remove kind domain => b.remove kind domain
  | .replace rule newRule => b.replace rule newRule

/-- The rules that an edit is about. -/
def rules : BlockerEdit → List String
  | .add kind domain => [kind.ruleText domain]
  | .remove kind domain => [kind.ruleText domain]
  | .replace rule newRule => [rule, newRule]

/-- Each rule of an edit is one line. -/
def OneLine (edit : BlockerEdit) : Prop :=
  ∀ rule ∈ edit.rules, '\n' ∉ rule.toList

/-- An edit removes an entry that stands twice at one of the ends, or replaces a placeholder that is
not counted by another entry. -/
def Breaks (b : Blocker) : BlockerEdit → Prop
  | .add _ _ => False
  | .remove kind domain => ∃ es e, b.text = serializeEntries es ∧
      entryText (kind.ruleText domain) = .ok e.serialize.toList ∧ LeavesGap e es
  | .replace _ newRule =>
    b.count = 0 ∧ entryText newRule ≠ .ok placeholderEntry.serialize.toList

end BlockerEdit

namespace Blocker

/-- A content blocker after some edits, if none of them is refused. -/
def run (b : Blocker) (edits : List BlockerEdit) : Except EditError Blocker :=
  edits.foldlM BlockerEdit.apply b

/-- The text of a content blocker is an array, and the elements are counted, if they are not the
placeholder. -/
def IsCountedArray (b : Blocker) : Prop :=
  ∃ items, Json.read b.text = some (.arr items) ∧
    (b.count = items.length ∨ b.count = 0 ∧ b.text = placeholder)

/-- A content blocker has the text of some entries, and the entries are counted, if they are not the
placeholder. -/
structure HoldsEntries (b : Blocker) (es : List Entry) : Prop where
  ne_nil : es ≠ []
  text : b.text = serializeEntries es
  count : b.count = es.length ∨ b.count = 0 ∧ es = [placeholderEntry]

namespace HoldsEntries

variable {b b' : Blocker} {es : List Entry} (h : b.HoldsEntries es)
include h

theorem isCountedArray : b.IsCountedArray := by
  refine ⟨es.map Entry.toJson, by rw [h.text, read_serializeEntries], ?_⟩
  rw [List.length_map]
  refine h.count.imp_right fun ⟨hcount, hes⟩ => ⟨hcount, ?_⟩
  rw [h.text, hes]
  rfl

/-- Only the placeholder is not counted. -/
theorem eq_of_count_eq_zero (hzero : b.count = 0) : es = [placeholderEntry] := by
  refine (h.count.resolve_left fun hlength => h.ne_nil ?_).2
  rw [hzero] at hlength
  exact List.length_eq_zero_iff.1 (by omega)

/-! ## One edit -/

/-- **What is added is counted**, and in place of a placeholder it is counted as one. -/
theorem addRule {rule : String} (hline : '\n' ∉ rule.toList) (hadd : b.addRule rule = .ok b') :
    ∃ es', b'.HoldsEntries es' := by
  obtain ⟨entry, hentry, habsent⟩ := exists_of_addRule hadd
  obtain ⟨e, -, rfl⟩ := exists_entry_of_entryText hline hentry
  have hmem : e ∉ es := by
    intro hmem
    rw [(occursIn_text h.text e).2 hmem] at habsent
    cases habsent
  rw [addRule_eq_ok hentry h.text h.ne_nil hmem] at hadd
  obtain rfl := Except.ok.inj hadd
  by_cases hempty : b.isEmpty = true
  · rw [if_pos hempty]
    exact ⟨[e], List.cons_ne_nil e [], rfl, .inl rfl⟩
  · have hcount : b.count = es.length := by
      refine h.count.resolve_right fun hplaceholder => hempty ?_
      rw [isEmpty, hplaceholder.1]
      rfl
    rw [if_neg hempty]
    refine ⟨es ++ [e], by simp, rfl, .inl ?_⟩
    rw [hcount, List.length_append]
    rfl

/-- **What is left by a removal is counted, unless a gap is left.** -/
theorem removeRule {rule : String} (hline : '\n' ∉ rule.toList)
    (hremove : b.removeRule rule = .ok b') :
    ∃ e, entryText rule = .ok e.serialize.toList ∧
      (¬ LeavesGap e es → ∃ es', b'.HoldsEntries es') ∧
      (LeavesGap e es → ¬ b'.IsCountedArray) := by
  obtain ⟨entry, hentry, hin⟩ := exists_of_removeRule hremove
  obtain ⟨e, -, rfl⟩ := exists_entry_of_entryText hline hentry
  have hmem := (occursIn_text h.text e).1 hin
  refine ⟨e, hentry, fun hgap => ?_, fun hgap => ?_⟩
  · rw [removeRule_eq_of_not_leavesGap hentry h.text hmem hgap] at hremove
    obtain rfl := Except.ok.inj hremove
    by_cases hnone : entriesWithout e es = []
    · rw [if_pos hnone]
      exact ⟨[placeholderEntry], List.cons_ne_nil _ _, rfl, .inr ⟨rfl, rfl⟩⟩
    · rw [if_neg hnone]
      refine ⟨entriesWithout e es, hnone, rfl, .inl ?_⟩
      have hlength := length_entriesWithout e es
      rcases h.count with hcount | ⟨-, hes⟩
      · show b.count - es.count e = _
        omega
      · -- the one entry is the removed one
        rw [hes, List.mem_singleton] at hmem
        rw [hes, hmem] at hnone
        exact absurd rfl hnone
  · have hnone := readChars_textWithout hgap
    have hbrackets : textWithout e es ≠ ['[', ']'] := by
      intro heq
      rw [heq] at hnone
      cases hnone
    rw [removeRule_eq_of_mem hentry h.text hmem, if_neg hbrackets] at hremove
    obtain rfl := Except.ok.inj hremove
    rintro ⟨items, hread, -⟩
    rw [Json.read, String.toList_ofList, hnone] at hread
    cases hread

/-- **What replaces other entries is counted, unless it replaces a placeholder.** -/
theorem replace {rule newRule : String} (hline : '\n' ∉ rule.toList)
    (hnewLine : '\n' ∉ newRule.toList) (hreplace : b.replace rule newRule = .ok b') :
    (¬ (BlockerEdit.replace rule newRule).Breaks b → ∃ es', b'.HoldsEntries es') ∧
      ((BlockerEdit.replace rule newRule).Breaks b → ¬ b'.IsCountedArray) := by
  obtain ⟨entry, newEntry, hentry, hnew, hin⟩ := exists_of_replace hreplace
  obtain ⟨e, -, rfl⟩ := exists_entry_of_entryText hline hentry
  obtain ⟨new, -, rfl⟩ := exists_entry_of_entryText hnewLine hnew
  have hmem := (occursIn_text h.text e).1 hin
  rw [replace_eq_ok hentry h.text hmem hnew] at hreplace
  obtain rfl := Except.ok.inj hreplace
  -- a placeholder that is not counted is the entry that is replaced
  have halone (hes : es = [placeholderEntry]) :
      (es.map fun d => if d = e then new else d) = [new] := by
    rw [hes, List.mem_singleton] at hmem
    rw [hes, hmem, List.map_singleton, if_pos rfl]
  rw [BlockerEdit.Breaks, hnew]
  refine ⟨fun hkeep => ?_, ?_⟩
  · refine ⟨es.map fun d => if d = e then new else d, mt List.map_eq_nil_iff.1 h.ne_nil, rfl, ?_⟩
    rcases h.count with hcount | ⟨hzero, hes⟩
    · rw [List.length_map]
      exact .inl hcount
    · have hplaceholder : new = placeholderEntry := by
        by_contra hne
        refine hkeep ⟨hzero, fun heq => hne (Entry.serialize_injective ?_)⟩
        exact String.toList_injective (Except.ok.inj heq)
      rw [halone hes, hplaceholder]
      exact .inr ⟨hzero, rfl⟩
  · rintro ⟨hzero, hne⟩ ⟨items, hread, hcount⟩
    have hes := h.eq_of_count_eq_zero hzero
    rw [halone hes, read_serializeEntries] at hread
    obtain rfl := Json.arr.inj (Option.some.inj hread)
    rcases hcount with hcount | ⟨-, htext⟩
    · rw [hzero] at hcount
      cases hcount
    · rw [halone hes] at htext
      rw [List.singleton_inj.1 (serializeEntries_injective htext)] at hne
      exact hne rfl

/-- **An edit keeps the array unless it breaks it.** -/
theorem apply {edit : BlockerEdit} (hline : edit.OneLine) (hedit : edit.apply b = .ok b') :
    (¬ edit.Breaks b → ∃ es', b'.HoldsEntries es') ∧ (edit.Breaks b → ¬ b'.IsCountedArray) := by
  cases edit with
  | add kind domain =>
    exact ⟨fun _ => h.addRule (hline _ List.mem_cons_self) hedit, False.elim⟩
  | remove kind domain =>
    obtain ⟨e, hentry, hkeep, hbreak⟩ := h.removeRule (hline _ List.mem_cons_self) hedit
    have hiff : (BlockerEdit.remove kind domain).Breaks b ↔ LeavesGap e es := by
      constructor
      · rintro ⟨es', e', htext, hentry', hgap⟩
        obtain rfl := serializeEntries_injective (h.text.symm.trans htext)
        have heq := String.toList_injective (Except.ok.inj (hentry.symm.trans hentry'))
        rwa [Entry.serialize_injective heq]
      · exact fun hgap => ⟨es, e, h.text, hentry, hgap⟩
    rw [hiff]
    exact ⟨hkeep, hbreak⟩
  | replace rule newRule =>
    exact h.replace (hline _ List.mem_cons_self)
      (hline _ (List.mem_cons_of_mem _ List.mem_cons_self)) hedit

end HoldsEntries

/-! ## Runs of edits -/

/-- Every content blocker on the way has a property, from the first one on. -/
def Throughout (P : Blocker → Prop) (b : Blocker) (edits : List BlockerEdit) : Prop :=
  ∀ front b', front <+: edits → b.run front = .ok b' → P b'

/-- Every edit has a property together with the content blocker that it is applied to. -/
def AtEachEdit (P : BlockerEdit → Blocker → Prop) (b : Blocker) (edits : List BlockerEdit) : Prop :=
  ∀ front edit b', front ++ [edit] <+: edits → b.run front = .ok b' → P edit b'

theorem run_cons {b final : Blocker} {edit : BlockerEdit} {edits : List BlockerEdit} :
    b.run (edit :: edits) = .ok final ↔ ∃ next, edit.apply b = .ok next ∧ next.run edits = .ok final :=
  bind_eq_ok_iff

section
variable {b next : Blocker} {edit : BlockerEdit} {edits : List BlockerEdit}

theorem Throughout.first {P : Blocker → Prop} (h : Throughout P b edits) : P b :=
  h [] b (List.nil_prefix) rfl

theorem throughout_nil {P : Blocker → Prop} : Throughout P b [] ↔ P b := by
  refine ⟨Throughout.first, fun h front b' hfront hb' => ?_⟩
  obtain rfl := List.prefix_nil.1 hfront
  obtain rfl := Except.ok.inj hb'
  exact h

theorem throughout_cons {P : Blocker → Prop} (hnext : edit.apply b = .ok next) :
    Throughout P b (edit :: edits) ↔ P b ∧ Throughout P next edits := by
  constructor
  · intro h
    refine ⟨h.first, fun front b' hfront hb' => h (edit :: front) b' ?_ ?_⟩
    · exact List.cons_prefix_cons.2 ⟨rfl, hfront⟩
    · exact run_cons.2 ⟨next, hnext, hb'⟩
  · rintro ⟨hfirst, hothers⟩ front b' hfront hb'
    cases front with
    | nil =>
      obtain rfl := Except.ok.inj hb'
      exact hfirst
    | cons d front =>
      obtain ⟨rfl, hbegins⟩ := List.cons_prefix_cons.1 hfront
      obtain ⟨next', hnext', hb'⟩ := run_cons.1 hb'
      obtain rfl := Except.ok.inj (hnext.symm.trans hnext')
      exact hothers front b' hbegins hb'

theorem atEachEdit_nil {P : BlockerEdit → Blocker → Prop} : AtEachEdit P b [] :=
  fun front edit b' hfront => absurd (List.prefix_nil.1 hfront) (by simp)

theorem atEachEdit_cons {P : BlockerEdit → Blocker → Prop} (hnext : edit.apply b = .ok next) :
    AtEachEdit P b (edit :: edits) ↔ P edit b ∧ AtEachEdit P next edits := by
  constructor
  · intro h
    refine ⟨h [] edit b (List.prefix_append [edit] edits) rfl, fun front edit' b' hfront hb' => ?_⟩
    refine h (edit :: front) edit' b' ?_ ?_
    · exact List.cons_prefix_cons.2 ⟨rfl, hfront⟩
    · exact run_cons.2 ⟨next, hnext, hb'⟩
  · rintro ⟨hfirst, hothers⟩ front edit' b' hfront hb'
    cases front with
    | nil =>
      obtain rfl := Except.ok.inj hb'
      rwa [(List.cons_prefix_cons.1 hfront).1]
    | cons d front =>
      obtain ⟨rfl, hbegins⟩ := List.cons_prefix_cons.1 hfront
      obtain ⟨next', hnext', hb'⟩ := run_cons.1 hb'
      obtain rfl := Except.ok.inj (hnext.symm.trans hnext')
      exact hothers front edit' b' hbegins hb'

end

/-- **As long as no edit breaks the array, every content blocker on the way is one, and no longer.** -/
theorem HoldsEntries.run {b final : Blocker} {es : List Entry} (h : b.HoldsEntries es)
    {edits : List BlockerEdit} (hline : ∀ edit ∈ edits, edit.OneLine)
    (hrun : b.run edits = .ok final) :
    Throughout IsCountedArray b edits ↔ AtEachEdit (fun edit b' => ¬ edit.Breaks b') b edits := by
  induction edits generalizing b es with
  | nil => exact iff_of_true (throughout_nil.2 h.isCountedArray) atEachEdit_nil
  | cons edit edits ih =>
    obtain ⟨next, hnext, hrest⟩ := run_cons.1 hrun
    obtain ⟨hkeep, hbreak⟩ := h.apply (hline edit List.mem_cons_self) hnext
    have hlines : ∀ edit' ∈ edits, edit'.OneLine :=
      fun edit' hedit' => hline edit' (List.mem_cons_of_mem edit hedit')
    rw [throughout_cons hnext, atEachEdit_cons hnext]
    constructor
    · rintro ⟨-, harrays⟩
      have hfirst : ¬ edit.Breaks b := fun hbreaks => hbreak hbreaks harrays.first
      obtain ⟨es', h'⟩ := hkeep hfirst
      exact ⟨hfirst, (ih h' hlines hrest).1 harrays⟩
    · rintro ⟨hfirst, hothers⟩
      obtain ⟨es', h'⟩ := hkeep hfirst
      exact ⟨h.isCountedArray, (ih h' hlines hrest).2 hothers⟩

end Blocker

/-! ## Content blockers of conversions -/

/-- The content blocker of a text of rules has its entries, or the placeholder if there are none. -/
theorem exists_holdsEntries_ofText (text : String) :
    ∃ es, (ConversionResult.ofList (.ofText text) maxEntries false).blocker.HoldsEntries es := by
  have hcount := convertedCount_ofText text
  have htext := converted_ofText text
  generalize ConversionResult.ofList (.ofText text) maxEntries false = base at hcount htext
  have hblocker : base.blocker.count = (entriesOfText text).length := congrArg Nat.cast hcount
  by_cases hnil : entriesOfText text = []
  · rw [if_pos hnil] at htext
    rw [hnil] at hblocker
    exact ⟨[placeholderEntry], List.cons_ne_nil _ _, htext, .inr ⟨hblocker, rfl⟩⟩
  · rw [if_neg hnil] at htext
    exact ⟨entriesOfText text, hnil, htext, .inl hblocker⟩

/-- **Edits keep the content blocker of a conversion an array whose elements are counted, as long as
none breaks it.**  An edit does if it removes an entry that stands twice at the start or at the end
of the array, or if it replaces a placeholder that is not counted by another entry; and it breaks it
for certain. -/
theorem edits_keep_array_iff (lines : List String) {edits : List BlockerEdit}
    (hline : ∀ edit ∈ edits, edit.OneLine) :
    ∃ base, convertLines lines {} = .ok base ∧
      ∀ final, base.blocker.run edits = .ok final →
        (Blocker.Throughout Blocker.IsCountedArray base.blocker edits ↔
          Blocker.AtEachEdit (fun edit b => ¬ edit.Breaks b) base.blocker edits) := by
  refine ⟨_, convertLines_default lines, fun final hrun => ?_⟩
  obtain ⟨es, hes⟩ := exists_holdsEntries_ofText (Text.unlines lines)
  exact hes.run hline hrun

/-! ## Runs with one site -/

section
variable {domain : String} (hsite : IsSite domain) (kind : AllowKind)
include hsite

theorem BlockerEdit.oneLine_add : (add kind domain).OneLine := by
  intro rule hrule
  rw [List.mem_singleton.1 hrule]
  exact AllowKind.not_mem_ruleText (hsite.not_mem rfl) (by decide) kind

theorem BlockerEdit.oneLine_remove : (remove kind domain).OneLine :=
  BlockerEdit.oneLine_add hsite kind

/-- The removal of a rule for a site breaks an array only if its entry stands there twice. -/
theorem BlockerEdit.not_breaks_remove {b : Blocker} {es : List Entry}
    (htext : b.text = serializeEntries es) (hcount : es.count (kind.siteEntry domain) = 1) :
    ¬ (remove kind domain).Breaks b := by
  rintro ⟨es', e, htext', hentry, hgap⟩
  obtain rfl := serializeEntries_injective (htext.symm.trans htext')
  have heq := String.toList_injective
    (Except.ok.inj ((AllowKind.entryText_ruleText hsite kind).symm.trans hentry))
  rw [← Entry.serialize_injective heq] at hgap
  exact not_leavesGap_of_count hcount hgap

end

/-- The rule for a site is added and removed again. -/
def editsOfOneSite : List BlockerEdit :=
  [.add .onSite "example.org", .remove .onSite "example.org"]

theorem edits_keep_array_iff_of_one_site : (∀ edit ∈ editsOfOneSite, edit.OneLine) ∧
    ∃ base final, convertLines ["##.ad"] {} = .ok base ∧
      base.blocker.run editsOfOneSite = .ok final ∧ final.IsCountedArray := by
  have hsite : IsSite "example.org" := by decide
  have hline : ∀ edit ∈ editsOfOneSite, edit.OneLine :=
    List.forall_mem_cons.2 ⟨BlockerEdit.oneLine_add hsite .onSite,
      List.forall_mem_singleton.2 (BlockerEdit.oneLine_remove hsite .onSite)⟩
  have hcount := convertedCount_ofText (Text.unlines ["##.ad"])
  have htext := converted_ofText (Text.unlines ["##.ad"])
  rw [entriesOfText_of_class] at hcount htext
  obtain ⟨base, hbase, hruns⟩ := edits_keep_array_iff ["##.ad"] hline
  obtain rfl := Except.ok.inj (hbase.symm.trans (convertLines_default _))
  obtain ⟨added, hadded⟩ := exists_add_of_hidingEntry entries_of_class hsite .onSite
  have hremoved := ConversionResult.remove_add hsite _ _ _ .onSite hadded
  generalize ConversionResult.ofList _ _ _ = base at hbase hruns hcount htext hadded hremoved
  have hadd : (BlockerEdit.add .onSite "example.org").apply base.blocker = .ok added := hadded
  have hremove : (BlockerEdit.remove .onSite "example.org").apply added =
      .ok base.blocker.restored := hremoved
  have hrun : base.blocker.run editsOfOneSite = .ok base.blocker.restored :=
    Blocker.run_cons.2 ⟨added, hadd, Blocker.run_cons.2 ⟨_, hremove, rfl⟩⟩
  have hunbroken : ¬ (BlockerEdit.remove .onSite "example.org").Breaks added := by
    have hother : hidingEntry ".ad" ≠ AllowKind.onSite.siteEntry "example.org" :=
      hidingEntry_ne_of_ignorePrevious rfl
    have hplaceholder : [hidingEntry ".ad"] ≠ [placeholderEntry] :=
      mt List.singleton_inj.1 (hidingEntry_ne_of_ignorePrevious rfl)
    obtain ⟨-, heq⟩ := addRule_blocker hcount htext (List.cons_ne_nil _ _) hadded
    rw [if_neg hplaceholder, AllowKind.entriesOfText_ruleText hsite] at heq
    refine BlockerEdit.not_breaks_remove hsite .onSite (congrArg Blocker.text heq) ?_
    rw [List.singleton_append, List.count_cons_of_ne hother, List.count_singleton_self]
  have harrays := (hruns _ hrun).2 <| (Blocker.atEachEdit_cons hadd).2
    ⟨id, (Blocker.atEachEdit_cons hremove).2 ⟨hunbroken, Blocker.atEachEdit_nil⟩⟩
  exact ⟨hline, base, _, hbase, hrun, harrays _ _ (List.prefix_refl _) hrun⟩

/-- **A removal can leave a comma**: the rule for a site that stands twice in a list cannot be removed
without making the text unreadable. -/
theorem removal_leaves_comma : ¬ ∀ lines edits, (∀ edit ∈ edits, BlockerEdit.OneLine edit) →
    ∀ base final, convertLines lines {} = .ok base → base.blocker.run edits = .ok final →
      final.IsCountedArray := by
  intro hall
  have hsite : IsSite "example.org" := by decide
  have hentry := AllowKind.entryText_ruleText hsite .onSite
  generalize hrule : AllowKind.onSite.siteEntry "example.org" = e at hentry
  have hold : entriesOfText
      (Text.unlines ["@@||example.org$document", "@@||example.org$document"]) = [e, e] := by
    rw [← hrule]
    exact entriesOfText_of_entries (by decide) (by decide +kernel)
  have hbase := convertLines_default ["@@||example.org$document", "@@||example.org$document"]
  obtain ⟨es, hes⟩ := exists_holdsEntries_ofText
    (Text.unlines ["@@||example.org$document", "@@||example.org$document"])
  have htext := converted_ofText
    (Text.unlines ["@@||example.org$document", "@@||example.org$document"])
  rw [hold, if_neg (List.cons_ne_nil _ _)] at htext
  generalize ConversionResult.ofList _ _ _ = base at hbase hes htext
  obtain rfl := serializeEntries_injective (hes.text.symm.trans htext)
  obtain ⟨final, hfinal⟩ : ∃ final, base.blocker.remove .onSite "example.org" = .ok final :=
    (Blocker.removeRule_eq_ok_iff hentry hes.text).2 List.mem_cons_self
  have hbreaks : (BlockerEdit.remove .onSite "example.org").Breaks base.blocker :=
    ⟨[e, e], e, hes.text, hentry, .inl (List.prefix_refl _)⟩
  have hline := BlockerEdit.oneLine_remove hsite .onSite
  refine (hes.apply hline hfinal).2 hbreaks ?_
  exact hall _ [.remove .onSite "example.org"] (List.forall_mem_singleton.2 hline) base final hbase
    (Blocker.run_cons.2 ⟨final, hfinal, rfl⟩)

end ContentBlocker
