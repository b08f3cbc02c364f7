import ContentBlocker.Proofs.Allowlist.Lookup
import ContentBlocker.Proofs.Allowlist.Squeezed

/-!
# What an edit does to the entries

An edit of a content blocker is an edit of the list of its entries: the entry of a rule that is
added comes to stand at the end (`Blocker.addRule_eq_ok`), the copies of one that is replaced become
the other one (`Blocker.replace_eq_ok`), and the copies of one that is removed are gone from between
the others (`Blocker.removeRule_eq_ok`).

Two things are not as they should be with what is left by a removal.  The repair of commas does not
know which commas are within a string, so of each run of commas there one is left.  And it closes a
gap at either end of the array only if a single copy of the entry stood there: where there were two
or more, a comma is left next to the bracket, and the text is not an array any more
(`readChars_textWithout`).
-/

set_option autoImplicit false
namespace ContentBlocker

open Json (bracketed)
open Text (occursIn pieces replaceChars)

/-! ## Cutting an entry out -/

/-- Cutting out the copies of an entry leaves a gap at an end of the array that is not closed, because
two of them stand there next to each other. -/
def LeavesGap (e : Entry) (es : List Entry) : Prop :=
  [e, e] <+: es ∨ [e, e] <:+ es

/-- The entries that are left when the copies of one are cut out and the commas are repaired. -/
def entriesWithout (e : Entry) (es : List Entry) : List Entry :=
  (es.filter (· ≠ e)).map Entry.squeezed

/-- What is left of a content blocker when the copies of an entry are cut out and the commas are
repaired. -/
def textWithout (e : Entry) (es : List Entry) : List Char :=
  bracketed '[' ']' ((if [e, e] <+: es then [[]] else []) ++
    (entriesWithout e es).map Entry.chars ++ if [e, e] <:+ es then [[]] else [])

section
variable (e : Entry) (es : List Entry)

theorem length_entriesWithout : (entriesWithout e es).length + es.count e = es.length := by
  rw [entriesWithout, List.length_map]
  induction es with
  | nil => rfl
  | cons d es ih =>
    by_cases hd : d = e
    · rw [hd, List.filter_cons_of_neg (by simp), List.count_cons_self, List.length_cons]
      omega
    · rw [List.filter_cons_of_pos (by simpa), List.count_cons_of_ne hd, List.length_cons,
        List.length_cons]
      omega

/-- The text between two commas when an entry is cut out. -/
private def cutChars (d : Entry) : List Char :=
  if d = e then [] else d.chars

private theorem cutChars_eq_nil_iff (d : Entry) : cutChars e d = [] ↔ d = e := by
  rw [cutChars]
  split
  · exact iff_of_true rfl ‹_›
  · exact iff_of_false d.chars_ne_nil ‹_›

private theorem wordsOf_map_cutChars :
    wordsOf (es.map (cutChars e)) = (es.filter (· ≠ e)).map Entry.chars := by
  induction es with
  | nil => rfl
  | cons d es ih =>
    rw [List.map_cons]
    by_cases hd : d = e
    · rw [(cutChars_eq_nil_iff e d).2 hd, wordsOf_gap_cons, ih, List.filter_cons_of_neg (by simpa)]
    · rw [wordsOf_cons (mt (cutChars_eq_nil_iff e d).1 hd), ih, List.filter_cons_of_pos (by simpa),
        List.map_cons, cutChars, if_neg hd]

private theorem gaps_prefix_iff : [[], []] <+: es.map (cutChars e) ↔ [e, e] <+: es := by
  have hgap : ∀ d, [] = cutChars e d ↔ e = d :=
    fun d => eq_comm.trans ((cutChars_eq_nil_iff e d).trans eq_comm)
  rcases es with _ | ⟨a, _ | ⟨b, es⟩⟩ <;> simp [List.cons_prefix_cons, hgap]

private theorem gaps_suffix_iff : [[], []] <:+ es.map (cutChars e) ↔ [e, e] <:+ es := by
  rw [← List.reverse_prefix, ← List.map_reverse]
  exact (gaps_prefix_iff e es.reverse).trans (@List.reverse_prefix _ [e, e] es)

/-- **What the repair makes of the text from which an entry was cut out.** -/
theorem repairCommas_replaceChars :
    repairCommas (replaceChars e.chars [] (serializeEntries es).toList) = textWithout e es := by
  have hcut : replaceChars e.chars [] (serializeEntries es).toList =
      bracketed '[' ']' (es.map (cutChars e)) :=
    replaceChars_serializeEntries e [] es
  have hobjects : ∀ w ∈ es.map (cutChars e), w = [] ∨ IsObjectText w := by
    intro w hw
    obtain ⟨d, -, rfl⟩ := List.mem_map.1 hw
    rw [cutChars]
    split
    · exact .inl rfl
    · exact .inr d.isObjectText
  have hsqueezed : ((es.filter (· ≠ e)).map Entry.chars).map squeezeCommas =
      (entriesWithout e es).map Entry.chars := by
    rw [entriesWithout, List.map_map, List.map_map]
    exact List.map_congr_left fun d _ => d.squeezeCommas_chars
  rw [hcut, repairCommas_bracketed hobjects, wordsOf_map_cutChars, hsqueezed, textWithout]
  simp only [gaps_prefix_iff, gaps_suffix_iff]

end

theorem textWithout_of_not_leavesGap {e : Entry} {es : List Entry} (h : ¬ LeavesGap e es) :
    textWithout e es = (serializeEntries (entriesWithout e es)).toList := by
  rw [LeavesGap, not_or] at h
  rw [textWithout, if_neg h.1, if_neg h.2, List.nil_append, List.append_nil, toList_serializeEntries]

/-- Only of no entries nothing is left between the brackets. -/
theorem serializeEntries_eq_brackets_iff {es : List Entry} :
    (serializeEntries es).toList = ['[', ']'] ↔ es = [] := by
  cases es with
  | nil => exact iff_of_true rfl rfl
  | cons e es =>
    refine iff_of_false (fun h => ?_) (List.cons_ne_nil e es)
    obtain ⟨s, hs, -⟩ := e.chars_eq_cons
    rw [serializeEntries_cons, hs] at h
    cases h

theorem not_leavesGap_of_count {e : Entry} {es : List Entry} (h : es.count e = 1) :
    ¬ LeavesGap e es := by
  have htwo : [e, e].count e = 2 := by simp
  rintro (hstart | hend)
  · have hle := hstart.sublist.count_le e
    omega
  · have hle := hend.sublist.count_le e
    omega

/-- Where an entry is all there is, two copies of it stand at the end if they do at the start. -/
private theorem gap_iff_of_alone {e : Entry} {es : List Entry} (h : entriesWithout e es = []) :
    [e, e] <+: es ↔ [e, e] <:+ es := by
  have hall : ∀ d ∈ es, d = e := by
    intro d hd
    have hnil := List.filter_eq_nil_iff.1 (List.map_eq_nil_iff.1 h) d hd
    simpa using hnil
  have hreverse : es.reverse = es := by
    rw [List.eq_replicate_of_mem hall, List.reverse_replicate]
  have hiff := @List.reverse_prefix _ [e, e] es
  rwa [hreverse] at hiff

/-- **A gap that is left makes the text unreadable**, because a comma stands next to a bracket. -/
theorem readChars_textWithout {e : Entry} {es : List Entry} (h : LeavesGap e es) :
    Json.readChars (textWithout e es) = none := by
  by_cases hstart : [e, e] <+: es
  · have hbehind : (entriesWithout e es).map Entry.chars ++
        (if [e, e] <:+ es then [[]] else []) ≠ [] := by
      intro hnil
      obtain ⟨hentries, hgap⟩ := List.append_eq_nil_iff.1 hnil
      rw [if_pos ((gap_iff_of_alone (List.map_eq_nil_iff.1 hentries)).1 hstart)] at hgap
      cases hgap
    obtain ⟨w, ws, hws⟩ := List.exists_cons_of_ne_nil hbehind
    rw [textWithout, if_pos hstart, List.append_assoc, hws, List.singleton_append, bracketed_cons,
      List.flatMap_cons]
    exact Json.readChars_comma_first _
  · have hend := h.resolve_left hstart
    have hentries : entriesWithout e es ≠ [] :=
      fun hnil => hstart ((gap_iff_of_alone hnil).2 hend)
    have hchars : (entriesWithout e es).map Entry.chars =
        ((entriesWithout e es).map Entry.toJson).map Json.chars := by
      rw [List.map_map]
      rfl
    have hfree : ∀ v ∈ (entriesWithout e es).map Entry.toJson, Json.NumberFree v := by
      intro v hv
      obtain ⟨d, -, rfl⟩ := List.mem_map.1 hv
      exact d.numberFree_toJson
    have hread := Json.readChars_comma_last hfree (mt List.map_eq_nil_iff.1 hentries)
    rw [textWithout, if_neg hstart, if_pos hend, List.nil_append, bracketed,
      intercalate_append (mt List.map_eq_nil_iff.1 hentries) (List.cons_ne_nil _ _), hchars]
    simpa only [List.cons_append, List.append_assoc, List.nil_append, List.intercalate_singleton]
      using hread

/-! ## Edits -/

namespace Blocker

variable {rule : String} {b : Blocker}

/-- **What is added stands at the end.**  In a content blocker that counts as empty it stands in
place of what there was. -/
theorem addRule_eq_of_entries {es new : List Entry}
    (h : entryText rule = .ok ([','].intercalate (new.map Entry.chars))) (hnew : new ≠ [])
    (htext : b.text = serializeEntries es) (hne : es ≠ [])
    (habsent : occursIn ([','].intercalate (new.map Entry.chars)) b.text.toList = false) :
    b.addRule rule = .ok (if b.isEmpty = true then ⟨serializeEntries new, 1, b.total + 1⟩
      else ⟨serializeEntries (es ++ new), b.count + 1, b.total + 1⟩) := by
  have halone : String.ofList ('[' :: [','].intercalate (new.map Entry.chars) ++ [']']) =
      serializeEntries new := by
    rw [← String.toList_inj, String.toList_ofList, toList_serializeEntries]
    rfl
  have hbehind : String.ofList
      (b.text.toList.dropLast ++ ',' :: [','].intercalate (new.map Entry.chars) ++ [']']) =
        serializeEntries (es ++ new) := by
    rw [← String.toList_inj, String.toList_ofList, htext, serializeEntries_append hne hnew]
  rw [addRule_eq h, if_neg (by simp [habsent]), halone, hbehind]
  split <;> rfl

variable {e : Entry} {es front back : List Entry} (h : entryText rule = .ok e.serialize.toList)
include h

/-- An entry that is not listed yet is added. -/
theorem addRule_eq_ok (htext : b.text = serializeEntries es) (hne : es ≠ []) (hmem : e ∉ es) :
    b.addRule rule = .ok (if b.isEmpty = true then ⟨serializeEntries [e], 1, b.total + 1⟩
      else ⟨serializeEntries (es ++ [e]), b.count + 1, b.total + 1⟩) := by
  have hsingle : [','].intercalate ([e].map Entry.chars) = e.serialize.toList := by
    rw [List.map_singleton, List.intercalate_singleton, e.toList_serialize]
  refine addRule_eq_of_entries (by rw [h, hsingle]) (List.cons_ne_nil _ _) htext hne ?_
  rw [hsingle]
  exact Bool.eq_false_iff.2 (mt (occursIn_text htext e).1 hmem)

section
variable (htext : b.text = serializeEntries es) (hmem : e ∈ es)
include htext hmem

/-- **All copies of an entry are replaced.** -/
theorem replace_eq_ok {newRule : String} {new : Entry}
    (hnew : entryText newRule = .ok new.serialize.toList) :
    b.replace rule newRule =
      .ok { b with text := serializeEntries (es.map fun d => if d = e then new else d) } := by
  have hchars : (es.map fun d => if d = e then new.chars else d.chars) =
      (es.map fun d => if d = e then new else d).map Entry.chars := by
    rw [List.map_map]
    exact List.map_congr_left fun d _ => (apply_ite Entry.chars (d = e) new d).symm
  have hreplace : String.ofList
      (replaceChars e.serialize.toList new.serialize.toList b.text.toList) =
        serializeEntries (es.map fun d => if d = e then new else d) := by
    rw [← String.toList_inj, String.toList_ofList, htext, e.toList_serialize, new.toList_serialize,
      replaceChars_serializeEntries, toList_serializeEntries, hchars]
  rw [replace_eq h, if_pos ((occursIn_text htext e).2 hmem), hnew, ← hreplace]
  rfl

/-- All copies of an entry are removed. -/
theorem removeRule_eq_of_mem : b.removeRule rule = .ok (if textWithout e es = ['[', ']'] then
      ⟨placeholder, 0, max 0 (b.total - es.count e)⟩
    else ⟨String.ofList (textWithout e es), b.count - es.count e, b.total - es.count e⟩) := by
  have hremoved : ((pieces e.serialize.toList b.text.toList).length : Int) - 1 = es.count e := by
    rw [htext, e.toList_serialize, length_pieces_serializeEntries]
    omega
  have hleft : repairCommas (replaceChars e.serialize.toList [] b.text.toList) =
      textWithout e es := by
    rw [htext, e.toList_serialize, repairCommas_replaceChars]
  rw [removeRule_eq h, if_pos ((occursIn_text htext e).2 hmem)]
  dsimp only
  rw [hremoved, hleft]
  split <;> rfl

/-- **What is left are the other entries**, if no gap is.  If there are none, there is a
placeholder. -/
theorem removeRule_eq_of_not_leavesGap (hgap : ¬ LeavesGap e es) : b.removeRule rule =
    .ok (if entriesWithout e es = [] then ⟨placeholder, 0, max 0 (b.total - es.count e)⟩
      else ⟨serializeEntries (entriesWithout e es), b.count - es.count e,
        b.total - es.count e⟩) := by
  rw [removeRule_eq_of_mem h htext hmem, textWithout_of_not_leavesGap hgap]
  simp only [serializeEntries_eq_brackets_iff, String.ofList_toList]

end

/-- **What is removed is gone from between the others**, where it stands once.  Their text has one
comma in place of every run of commas. -/
theorem removeRule_eq_ok (htext : b.text = serializeEntries (front ++ e :: back))
    (hfront : e ∉ front) (hback : e ∉ back) : b.removeRule rule =
    .ok (if front ++ back = [] then ⟨placeholder, 0, max 0 (b.total - 1)⟩
      else ⟨String.ofList (squeezeCommas (serializeEntries (front ++ back)).toList), b.count - 1,
        b.total - 1⟩) := by
  have hcount : (front ++ e :: back).count e = 1 := by
    rw [List.count_append, List.count_cons_self, List.count_eq_zero_of_not_mem hfront,
      List.count_eq_zero_of_not_mem hback]
  have hothers {ds : List Entry} (hds : e ∉ ds) : ds.filter (· ≠ e) = ds := by
    refine List.filter_eq_self.2 fun d hd => ?_
    simpa using fun heq : d = e => hds (heq ▸ hd)
  have hleft : entriesWithout e (front ++ e :: back) = (front ++ back).map Entry.squeezed := by
    rw [entriesWithout, List.filter_append, List.filter_cons_of_neg (by simp), hothers hfront,
      hothers hback]
  rw [removeRule_eq_of_not_leavesGap h htext (List.mem_append_right _ List.mem_cons_self)
    (not_leavesGap_of_count hcount), hcount, hleft, squeezeCommas_serializeEntries,
    String.ofList_toList]
  simp only [List.map_eq_nil_iff]
  rfl

end Blocker
end ContentBlocker
