import ContentBlocker.Proofs.Conversion.Accounting
import ContentBlocker.Proofs.Rule.Reading
import ContentBlocker.Proofs.Text.Lines

/-!
# Filter lists line by line

What is read from a line depends neither on the lines around it nor on the blanks at its ends.  A
carriage return before a line break is one of these blanks, so a filter list might as well be cut at
its line feeds (`FilterList.ofText_eq_splitOn`).

From this it follows what is read from two texts with a line feed between them: what is read from the
first and then what is read from the second, with the numbers of its lines counted on
(`FilterList.ofText_append`).  So it does not matter whether texts are cut into their lines before
they are put together (`FilterList.ofText_unlines_flatMap_lines`).  It also follows what a conversion
of single lines reports: the lines that cannot be read, each with its number and its text
(`read_line_by_line`).
-/

set_option autoImplicit false
namespace ContentBlocker

/-! ## Blanks at the ends of lines -/

namespace Text

theorem trimChars_append_blanks (s : List Char) {blanks : List Char}
    (h : ∀ c ∈ blanks, isBlank c = true) : trimChars (s ++ blanks) = trimChars s := by
  rw [trimChars, trimChars, trimStartChars, trimStartChars, List.dropWhile_append]
  split
  · rename_i hempty
    rw [List.isEmpty_iff.1 hempty, ← List.append_nil blanks, List.dropWhile_append_of_pos h,
      List.dropWhile_nil]
  · have hreverse : ∀ c ∈ blanks.reverse, isBlank c = true :=
      fun c hc => h c (List.mem_reverse.1 hc)
    rw [trimEndChars, trimEndChars, List.reverse_append, List.dropWhile_append_of_pos hreverse]

theorem trimChars_trimChars (s : List Char) : trimChars (trimChars s) = trimChars s :=
  trimChars_eq_self (fun _ => isBlank_head_trimChars) fun _ => isBlank_getLast_trimChars

theorem trimChars_dropFinalReturn (s : List Char) :
    trimChars (dropFinalReturn s) = trimChars s := by
  rw [dropFinalReturn]
  split
  · rename_i hreturn
    obtain ⟨line, rfl⟩ := List.getLast?_eq_some_iff.1 hreturn
    have hblank : ∀ c ∈ ['\r'], isBlank c = true := List.forall_mem_singleton.2 rfl
    rw [List.dropLast_concat, trimChars_append_blanks line hblank]
  · rfl

/-- Without the blanks at their ends, the lines of a text are what stands between its line feeds. -/
theorem map_trimChars_lineChars (s : List Char) :
    (lineChars s).map trimChars = (s.splitOn '\n').map trimChars := by
  rw [lineChars]
  obtain ⟨pieces, last, hpieces⟩ : ∃ pieces last, s.splitOn '\n' = pieces ++ [last] :=
    ⟨_, _, (List.dropLast_concat_getLast (List.splitOn_ne_nil '\n' s)).symm⟩
  rw [hpieces]
  simp [trimChars_dropFinalReturn]

end Text

/-! ## Reading -/

/-- The rule on a line, if it is read as one. -/
def Rule.ofLine? (line : String) : Option Rule :=
  (ofText? line).toOption.join

theorem Rule.ofLine?_eq_some_iff {line : String} {rule : Rule} :
    ofLine? line = some rule ↔ ofText? line = .ok (some rule) := by
  rw [ofLine?, Option.join_eq_some_iff, toOption_eq_some_iff]

/-- The blanks around a line do not matter. -/
theorem Rule.ofText?_trim (line : String) : ofText? (Text.trim line) = ofText? line := by
  rw [ofText?, ofText?, Text.toList_trim, Text.trimChars_trimChars]

namespace FilterList

/-- A list as it is read behind some more lines. -/
def behind (count : Nat) (list : FilterList) : FilterList :=
  ⟨list.rules, list.issues.map fun issue => { issue with line := issue.line + count }⟩

@[simp] theorem rules_append (a b : FilterList) : (a ++ b).rules = a.rules ++ b.rules :=
  rfl

@[simp] theorem issues_append (a b : FilterList) : (a ++ b).issues = a.issues ++ b.issues :=
  rfl

theorem behind_append (count : Nat) (a b : FilterList) :
    (a ++ b).behind count = a.behind count ++ b.behind count := by
  show behind count (append a b) = append (a.behind count) (b.behind count)
  simp [behind, append]

/-! ### One line -/

theorem ofLine_trim (number : Nat) (line : String) :
    ofLine number (Text.trim line) = ofLine number line := by
  have htrim : Text.trim (Text.trim line) = Text.trim line := by
    rw [Text.trim, Text.toList_trim, Text.trimChars_trimChars, Text.trim]
  rw [ofLine, ofLine, Rule.ofText?_trim, htrim]

theorem ofLine_add (number count : Nat) (line : String) :
    ofLine (number + count) line = (ofLine number line).behind count := by
  rw [ofLine, ofLine]
  cases Rule.ofText? line with
  | error error => rfl
  | ok rule => cases rule <;> rfl

theorem mem_issues_ofLine_iff {number : Nat} {line : String} {issue : Issue} :
    issue ∈ (ofLine number line).issues ↔
      issue = ⟨number, Text.trim line, issue.error⟩ ∧ Rule.ofText? line = .error issue.error := by
  rw [ofLine]
  cases Rule.ofText? line with
  | error error =>
    rw [List.mem_singleton, Except.error.injEq]
    constructor
    · rintro rfl
      exact ⟨rfl, rfl⟩
    · rintro ⟨hissue, rfl⟩
      exact hissue
  | ok rule => cases rule <;> simp [empty]

theorem rules_ofLine (number : Nat) (line : String) :
    (ofLine number line).rules = (Rule.ofLine? line).toList := by
  rw [ofLine, Rule.ofLine?]
  cases Rule.ofText? line with
  | error error => rfl
  | ok rule => cases rule <;> rfl

/-- From one line there is a rule, or an issue, or nothing. -/
theorem ofLine_cases (number : Nat) (line : String) :
    (∃ rule, Rule.ofText? line = .ok (some rule) ∧ ofLine number line = ⟨[rule], []⟩) ∨
    (∃ error, Rule.ofText? line = .error error ∧
      ofLine number line = ⟨[], [⟨number, Text.trim line, error⟩]⟩) ∨
    Rule.ofText? line = .ok none ∧ ofLine number line = ⟨[], []⟩ := by
  rw [ofLine]
  cases Rule.ofText? line with
  | error error => exact .inr (.inl ⟨error, rfl, rfl⟩)
  | ok rule =>
    cases rule with
    | some rule => exact .inl ⟨rule, rfl, rfl⟩
    | none => exact .inr (.inr ⟨rfl, rfl⟩)

/-! ### All lines -/

theorem ofLinesFrom_cons (number : Nat) (line : String) (lines : List String) :
    ofLinesFrom number (line :: lines) = ofLine number line ++ ofLinesFrom (number + 1) lines := by
  rw [← List.singleton_append, ofLinesFrom_append]
  congr 1
  simp [ofLinesFrom]

theorem rules_ofLinesFrom (number : Nat) (lines : List String) :
    (ofLinesFrom number lines).rules = lines.filterMap Rule.ofLine? := by
  induction lines generalizing number with
  | nil => rfl
  | cons line lines ih =>
    rw [ofLinesFrom_cons, rules_append, rules_ofLine, ih, List.filterMap_cons]
    cases Rule.ofLine? line <;> rfl

theorem ofLinesFrom_map_trim (number : Nat) (lines : List String) :
    ofLinesFrom number (lines.map Text.trim) = ofLinesFrom number lines := by
  induction lines generalizing number with
  | nil => rfl
  | cons line lines ih =>
    rw [List.map_cons, ofLinesFrom_cons, ofLinesFrom_cons, ofLine_trim, ih]

theorem ofLinesFrom_add (number count : Nat) (lines : List String) :
    ofLinesFrom (number + count) lines = (ofLinesFrom number lines).behind count := by
  induction lines generalizing number with
  | nil => rfl
  | cons line lines ih =>
    rw [ofLinesFrom_cons, ofLinesFrom_cons, behind_append, ofLine_add, ← ih, Nat.add_right_comm]

/-- **The lines that are reported are those that cannot be read.** -/
theorem mem_issues_ofLinesFrom_iff {number : Nat} {lines : List String} {issue : Issue} :
    issue ∈ (ofLinesFrom number lines).issues ↔
      number ≤ issue.line ∧ ∃ line, lines[issue.line - number]? = some line ∧
        issue.text = Text.trim line ∧ Rule.ofText? line = .error issue.error := by
  simp only [ofLinesFrom, List.mem_flatMap, List.mem_map, Prod.exists,
    List.mk_mem_zipIdx_iff_le_and_getElem?_sub]
  constructor
  · rintro ⟨_, ⟨line, n, ⟨hle, hline⟩, rfl⟩, hissue⟩
    obtain ⟨heq, herror⟩ := mem_issues_ofLine_iff.1 hissue
    rw [heq]
    exact ⟨hle, line, hline, rfl, herror⟩
  · rintro ⟨hle, line, hline, htext, herror⟩
    refine ⟨_, ⟨line, issue.line, ⟨hle, hline⟩, rfl⟩, mem_issues_ofLine_iff.2 ⟨?_, herror⟩⟩
    rw [← htext]

/-- The numbers of the lines that are reported grow. -/
theorem pairwise_issues_ofLinesFrom (number : Nat) (lines : List String) :
    (ofLinesFrom number lines).issues.Pairwise fun i j => i.line < j.line := by
  induction lines generalizing number with
  | nil => exact List.Pairwise.nil
  | cons line lines ih =>
    rw [ofLinesFrom_cons, issues_append, List.pairwise_append]
    refine ⟨?_, ih _, fun i hi j hj => ?_⟩
    · rcases ofLine_cases number line with ⟨rule, -, heq⟩ | ⟨error, -, heq⟩ | ⟨-, heq⟩ <;>
        rw [heq] <;> simp
    · have hnumber := congrArg Issue.line (mem_issues_ofLine_iff.1 hi).1
      have hle := (mem_issues_ofLinesFrom_iff.1 hj).1
      dsimp only at hnumber
      omega

/-! ### Texts -/

/-- **A filter list might as well be cut at its line feeds.** -/
theorem ofText_eq_splitOn (text : String) :
    ofText text = ofLinesFrom 1 ((text.toList.splitOn '\n').map String.ofList) := by
  have htrim (ls : List (List Char)) :
      (ls.map String.ofList).map Text.trim = (ls.map Text.trimChars).map String.ofList := by
    simp [Text.trim]
  rw [ofText, Text.lines, ← ofLinesFrom_map_trim, htrim, Text.map_trimChars_lineChars, ← htrim,
    ofLinesFrom_map_trim]

/-- **Two texts with a line feed between them are read one behind the other.** -/
theorem ofText_append (a b : String) :
    ofText (a ++ "\n" ++ b) = ofText a ++ (ofText b).behind (1 + a.toList.count '\n') := by
  have hsplit : (a ++ "\n" ++ b).toList.splitOn '\n' =
      a.toList.splitOn '\n' ++ b.toList.splitOn '\n' := by
    rw [String.toList_append, String.toList_append, List.append_assoc]
    exact List.splitOn_append_cons_self _ _
  rw [ofText_eq_splitOn, ofText_eq_splitOn a, ofText_eq_splitOn b, hsplit, List.map_append,
    ofLinesFrom_append, List.length_map, Text.length_splitOn_feed, ofLinesFrom_add,
    Nat.add_comm (a.toList.count '\n')]

/-- A text without a line feed is read as a line. -/
theorem ofText_of_no_feed {line : String} (hline : '\n' ∉ line.toList) :
    ofText line = ofLine 1 line := by
  rw [ofText_eq_splitOn, List.splitOn_eq_singleton hline, List.map_singleton, String.ofList_toList,
    ofLinesFrom, List.zipIdx_singleton, List.map_singleton, List.flatMap_singleton,
    List.flatMap_singleton]

/-- **Lines that are put together are read as they are.** -/
theorem ofText_unlines {lines : List String} (h : ∀ line ∈ lines, '\n' ∉ line.toList) :
    ofText (Text.unlines lines) = ofLinesFrom 1 lines := by
  by_cases hnil : lines = []
  · -- no lines make an empty text, which is one line without a rule
    rw [hnil]
    rfl
  · have hsplit : (Text.unlines lines).toList.splitOn '\n' = lines.map String.toList := by
      rw [Text.unlines, String.toList_intercalate]
      refine List.splitOn_intercalate '\n' (fun piece hpiece => ?_) (by simpa using hnil)
      obtain ⟨line, hline, rfl⟩ := List.mem_map.1 hpiece
      exact h line hline
    rw [ofText_eq_splitOn, hsplit, List.map_map]
    simp [Function.comp_def]

/-- **Texts may be cut into their lines before they are put together.** -/
theorem ofText_unlines_flatMap_lines (texts : List String) :
    ofText (Text.unlines (texts.flatMap Text.lines)) = ofText (Text.unlines texts) := by
  have hfeed : ∀ line ∈ texts.flatMap Text.lines, '\n' ∉ line.toList := by
    intro line hline
    obtain ⟨text, -, hline⟩ := List.mem_flatMap.1 hline
    exact Text.feed_not_mem_of_mem_lines hline
  rw [ofText_unlines hfeed]
  clear hfeed
  induction texts with
  | nil => rfl
  | cons text texts ih =>
    cases texts with
    | nil => rw [List.flatMap_singleton, Text.unlines, String.intercalate_singleton, ofText]
    | cons next texts =>
      rw [Text.unlines, String.intercalate_cons_cons, ofText_append, ← Text.unlines, ← ih,
        List.flatMap_cons, ofLinesFrom_append, Text.length_lines, ofLinesFrom_add,
        Nat.add_comm (text.toList.count '\n'), ofText]

end FilterList

/-! ## Conversions -/

/-- **A filter list is read line by line.**  What is read from two texts with a line feed between
them is what is read from the first and, behind it, what is read from the second, with the numbers of
its lines greater by the number of lines of the first.  A text without a line feed has one rule, or
one issue on its first line, or nothing.  So a conversion of lines reports those that cannot be read,
with growing numbers, each with the text of the line that has this number. -/
theorem read_line_by_line :
    (∀ a b : String,
      let list := FilterList.ofText (a ++ "\n" ++ b)
      list.rules = (FilterList.ofText a).rules ++ (FilterList.ofText b).rules ∧
      list.issues = (FilterList.ofText a).issues ++ (FilterList.ofText b).issues.map fun issue =>
        { issue with line := issue.line + (1 + a.toList.count '\n') }) ∧
    (∀ text : String, '\n' ∉ text.toList →
      (∃ rule, Rule.ofText? text = .ok (some rule) ∧ FilterList.ofText text = ⟨[rule], []⟩) ∨
      (∃ error, Rule.ofText? text = .error error ∧
        FilterList.ofText text = ⟨[], [⟨1, Text.trim text, error⟩]⟩) ∨
      Rule.ofText? text = .ok none ∧ FilterList.ofText text = ⟨[], []⟩) ∧
    ∀ lines : List String, (∀ line ∈ lines, '\n' ∉ line.toList) →
      (∃ result, convertLines lines {} = .ok result) ∧
      ∀ options result, convertLines lines options = .ok result →
        result.report.issues.Pairwise (fun i j => i.line < j.line) ∧
        ∀ issue, issue ∈ result.report.issues ↔
          1 ≤ issue.line ∧ ∃ line, lines[issue.line - 1]? = some line ∧
            issue.text = Text.trim line ∧ Rule.ofText? line = .error issue.error := by
  refine ⟨fun a b => ?_, fun text htext => ?_, fun lines hlines => ?_⟩
  · intro list
    have hlist : list = _ := FilterList.ofText_append a b
    rw [hlist]
    exact ⟨rfl, rfl⟩
  · rw [FilterList.ofText_of_no_feed htext]
    exact FilterList.ofLine_cases 1 text
  · refine ⟨⟨_, convertLines_default lines⟩, fun options result hresult => ?_⟩
    obtain ⟨limit, -, rfl, -⟩ := convert_eq_ok_iff.1 hresult
    rw [ConversionResult.issues_ofList, FilterList.ofText_unlines hlines]
    exact ⟨FilterList.pairwise_issues_ofLinesFrom 1 lines,
      fun issue => FilterList.mem_issues_ofLinesFrom_iff⟩

/-- Lines with carriage returns at their ends, of which the second cannot be read. -/
def returnLines : List String :=
  ["! remark\r", " ||a.example^$popup\r", "##.ad"]

theorem read_line_by_line_of_returnLines :
    (∀ line ∈ returnLines, '\n' ∉ line.toList) ∧
      (∃ rule, FilterList.ofText "##.ad" = ⟨[rule], []⟩) ∧
      ∃ result, convertLines returnLines {} = .ok result ∧
        ⟨2, "||a.example^$popup", .unsupportedModifier "popup"⟩ ∈ result.report.issues := by
  have hlines : ∀ line ∈ returnLines, '\n' ∉ line.toList := by decide
  obtain ⟨-, hline, hconvert⟩ := read_line_by_line
  obtain ⟨⟨result, hresult⟩, hissues⟩ := hconvert returnLines hlines
  refine ⟨hlines, ?_, result, hresult, ?_⟩
  · have hread : (Rule.ofText? "##.ad").toOption.join.isSome = true := rfl
    rcases hline "##.ad" (by decide) with ⟨rule, -, heq⟩ | ⟨error, herror, -⟩ | ⟨hnone, -⟩
    · exact ⟨rule, heq⟩
    · rw [herror] at hread
      cases hread
    · rw [hnone] at hread
      cases hread
  · exact ((hissues {} result hresult).2 _).2
      ⟨by decide, " ||a.example^$popup\r", by decide, by decide, by decide +kernel⟩

end ContentBlocker
