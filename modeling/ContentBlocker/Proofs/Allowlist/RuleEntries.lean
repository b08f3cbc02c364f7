import ContentBlocker.Allowlist.Edit
import ContentBlocker.Proofs.Conversion.LineByLine

/-!
# The entries of a text of rules

An edit of a content blocker converts the text of a rule as a conversion does a list of rules, and
cuts the brackets off.  So the text that it works with is that of all entries of the rule, with
commas between them (`entryText_eq_ok_iff`).  There is one of them if the rule is one line
(`exists_entry_of_entryText`); a text with line feeds in it may have several.
-/

set_option autoImplicit false
namespace ContentBlocker

/-- The entries of a text of rules, as they stand in its content blocker. -/
@[irreducible]
def entriesOfText (text : String) : List Entry :=
  (Sorting.ofRules false (FilterList.ofText text).rules).entries.take maxEntries

theorem convertedCount_ofText (text : String) :
    (ConversionResult.ofList (.ofText text) maxEntries false).convertedCount =
      (entriesOfText text).length := by
  rw [entriesOfText, ConversionResult.ofList, ConversionResult.ofSorting]

/-- The content blocker of a text of rules is its entries, or the placeholder if there are none. -/
theorem converted_ofText (text : String) :
    (ConversionResult.ofList (.ofText text) maxEntries false).converted =
      serializeEntries (if entriesOfText text = [] then [placeholderEntry] else entriesOfText text) := by
  rw [ConversionResult.ofList, ConversionResult.ofSorting, ← entriesOfText]
  by_cases hnil : entriesOfText text = []
  · rw [if_pos (List.isEmpty_iff.2 hnil), if_pos hnil]
    rfl
  · rw [if_neg (mt List.isEmpty_iff.1 hnil), if_neg hnil]

/-- **The text of a rule is its entries with commas between them**, if it has any. -/
theorem entryText_eq_ok_iff {rule : String} {text : List Char} : entryText rule = .ok text ↔
    entriesOfText rule ≠ [] ∧ text = [','].intercalate ((entriesOfText rule).map Entry.chars) := by
  simp only [entryText, convertedCount_ofText, converted_ofText, List.length_eq_zero_iff]
  by_cases hnil : entriesOfText rule = []
  · rw [if_pos hnil]
    exact iff_of_false nofun fun h => h.1 hnil
  · rw [if_neg hnil, if_neg hnil, toList_serializeEntries, Json.bracketed, List.drop_one,
      List.cons_append, List.tail_cons, List.dropLast_concat, Except.ok.injEq, eq_comm]
    exact (and_iff_right hnil).symm

/-! ## One line -/

/-- One line has one entry at the most. -/
theorem length_entriesOfText_le {line : String} (hline : '\n' ∉ line.toList) :
    (entriesOfText line).length ≤ 1 := by
  have hrules : (FilterList.ofText line).rules.length ≤ 1 := by
    rw [FilterList.ofText_of_no_feed hline, FilterList.ofLine]
    split <;> simp [FilterList.empty]
  have hentries := Sorting.length_ofRules false (FilterList.ofText line).rules
  have htake : (entriesOfText line).length ≤
      (Sorting.ofRules false (FilterList.ofText line).rules).entries.length := by
    rw [entriesOfText]
    exact List.length_take_le' _ _
  omega

/-- The text of a rule on one line is that of its entry. -/
theorem exists_entry_of_entryText {line : String} (hline : '\n' ∉ line.toList) {text : List Char}
    (h : entryText line = .ok text) :
    ∃ e, entriesOfText line = [e] ∧ e.serialize.toList = text := by
  obtain ⟨hne, htext⟩ := entryText_eq_ok_iff.1 h
  have hlength : (entriesOfText line).length = 1 := by
    have hle := length_entriesOfText_le hline
    have hpos := List.length_pos_iff.2 hne
    omega
  obtain ⟨e, he⟩ := List.length_eq_one_iff.1 hlength
  refine ⟨e, he, ?_⟩
  rw [htext, he, List.map_singleton, List.intercalate_singleton, e.toList_serialize]

/-! ## A single entry -/

section
variable {text : String} {e : Entry}

theorem entriesOfText_of_entries {es : List Entry} (hlength : es.length ≤ maxEntries)
    (h : (Sorting.ofRules false (FilterList.ofText text).rules).entries = es) :
    entriesOfText text = es := by
  rw [entriesOfText, h, List.take_of_length_le hlength]

/-- The entry of a rule on a line of its own. -/
theorem entriesOfText_of_entry {rule : Rule} {group : EntryGroup} (hline : '\n' ∉ text.toList)
    (hread : Rule.ofText? text = .ok (some rule)) (hjudge : rule.judge false = .entry group e) :
    entriesOfText text = [e] := by
  have hlength : 1 ≤ maxEntries := by decide
  refine entriesOfText_of_entries hlength ?_
  rw [FilterList.ofText_of_no_feed hline, FilterList.ofLine, hread]
  cases group <;> simp [Sorting.ofRules, Sorting.ofVerdicts, hjudge, Verdict.entryOf?]

theorem entryText_of_entriesOfText (h : entriesOfText text = [e]) :
    entryText text = .ok e.serialize.toList := by
  refine entryText_eq_ok_iff.2 ⟨?_, ?_⟩
  · rw [h]
    exact List.cons_ne_nil e []
  · rw [h, List.map_singleton, List.intercalate_singleton, e.toList_serialize]

end

end ContentBlocker
