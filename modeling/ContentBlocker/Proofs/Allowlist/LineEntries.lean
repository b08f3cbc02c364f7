import ContentBlocker.Proofs.Allowlist.RuleEntries
import ContentBlocker.Proofs.Conversion.AdvancedBlocking
import ContentBlocker.Proofs.Conversion.Limit
import ContentBlocker.Proofs.Conversion.Ordering

/-!
# A line alone and among others

An edit of a content blocker converts the rule that it is about on its own, and looks for the text of
its entry among entries that were converted together.  It finds what it looks for because a rule has
the same entry either way, whatever the other lines are, wherever its entry is put and whether there
is advanced blocking or not.

The entries of a content blocker are followed back to the lines of its list: `lineEntries` are the
entries of a list with the places of their lines, `placedEntries` are the same in the order of the
content blocker, where they are the entries that the rules of the list have
(`entries_ofRules_lines`).  A line has one of them exactly if it can be converted alone, and then the
text is the same (`same_entry_alone`).
-/

set_option autoImplicit false
namespace ContentBlocker

/-! ## Rules without advanced blocking -/

/-- A rule that does not need advanced blocking has the same entry with it. -/
theorem compiledRule?_eq (advanced : Bool) (rule : Rule) :
    compiledRule? advanced rule = compiledRule? false rule := by
  cases advanced with
  | false => rfl
  | true =>
    rw [compiledRule?, compiledRule?]
    split
    · rename_i htype
      rcases rule.compile_cases with ⟨hcompile, -⟩ | ⟨hadvanced, -⟩
      · rw [hcompile]
      · rw [Rule.isAdvanced_eq_false_iff.2 htype] at hadvanced
        cases hadvanced
    · rfl

/-! ## One line -/

/-- The rule on a line with its entry, if there is a rule that belongs to a content blocker. -/
def compiledLine? (advanced : Bool) (line : String) : Option (Rule × Entry) :=
  (Rule.ofLine? line).bind (compiledRule? advanced)

theorem compiledLine?_eq (advanced : Bool) (line : String) :
    compiledLine? advanced line = compiledLine? false line :=
  congrArg (Rule.ofLine? line).bind (funext (compiledRule?_eq advanced))

theorem compiledLine?_eq_some_iff {advanced : Bool} {line : String} {p : Rule × Entry} :
    compiledLine? advanced line = some p ↔ Rule.ofText? line = .ok (some p.1) ∧
      (p.1.type = .network ∨ p.1.type = .hide) ∧ p.1.compile advanced = .ok p.2 := by
  rw [compiledLine?, Option.bind_eq_some_iff]
  simp only [Rule.ofLine?_eq_some_iff, compiledRule?_eq_some_iff]
  constructor
  · rintro ⟨rule, hread, htype, hcompile, rfl⟩
    exact ⟨hread, htype, hcompile⟩
  · rintro ⟨hread, htype, hcompile⟩
    exact ⟨p.1, hread, htype, hcompile, rfl⟩

/-- What is put in order is not changed if there is one thing at the most. -/
theorem inOrder_toList (p? : Option (Rule × Entry)) : inOrder p?.toList = p?.toList := by
  cases p? with
  | none => rfl
  | some p => exact List.perm_singleton.1 (perm_inOrder [p])

/-- **A line that is converted alone has the entry of its rule.** -/
theorem entriesOfText_of_line {line : String} (hline : '\n' ∉ line.toList) :
    entriesOfText line = ((compiledLine? false line).map (·.2)).toList := by
  refine entriesOfText_of_entries ?_ ?_
  · have hle : ((compiledLine? false line).map (·.2)).toList.length ≤ 1 :=
      Option.length_toList_le
    exact Nat.le_trans hle (by decide)
  · rw [FilterList.ofText_of_no_feed hline, FilterList.rules_ofLine, entries_ofRules]
    have hcompiled : compiledRules false (Rule.ofLine? line).toList =
        (compiledLine? false line).toList := by
      rw [compiledLine?]
      cases Rule.ofLine? line with
      | none => rfl
      | some rule =>
        show List.filterMap _ [rule] = _
        rw [List.filterMap_cons, Option.bind_some]
        cases compiledRule? false rule <;> rfl
    rw [hcompiled, inOrder_toList]
    cases compiledLine? false line <;> rfl

/-- The text of a rule on one line is that of the entry that the line has in any list. -/
theorem entryText_of_line (advanced : Bool) {line : String} (hline : '\n' ∉ line.toList)
    {text : List Char} : entryText line = .ok text ↔
      ∃ p, compiledLine? advanced line = some p ∧ p.2.serialize.toList = text := by
  rw [compiledLine?_eq]
  constructor
  · intro h
    obtain ⟨e, he, htext⟩ := exists_entry_of_entryText hline h
    rw [entriesOfText_of_line hline] at he
    obtain ⟨p, hp, rfl⟩ := Option.map_eq_some_iff.1 (Option.toList_eq_singleton_iff.1 he)
    exact ⟨p, hp, htext⟩
  · rintro ⟨p, hp, rfl⟩
    refine entryText_of_entriesOfText ?_
    rw [entriesOfText_of_line hline, hp]
    rfl

/-! ## All lines -/

/-- An entry with its rule and with the place of its line in a list. -/
structure LineEntry where
  place : Nat
  rule : Rule
  entry : Entry

namespace LineEntry

/-- The rule with its entry. -/
def compiled (p : LineEntry) : Rule × Entry :=
  (p.rule, p.entry)

/-- The entry of a line with its place. -/
def ofLine? (advanced : Bool) (numbered : String × Nat) : Option LineEntry :=
  (compiledLine? advanced numbered.1).map fun p => ⟨numbered.2, p.1, p.2⟩

end LineEntry

section
variable (advanced : Bool) (lines : List String)

/-- The entries of a list in the order of its lines. -/
def lineEntries : List LineEntry :=
  lines.zipIdx.filterMap (LineEntry.ofLine? advanced)

/-- The entries of a list in the order of its content blocker. -/
def placedEntries : List LineEntry :=
  (lineEntries advanced lines).filter (fun p => !p.rule.isException) ++
    (lineEntries advanced lines).filter
      (fun p => p.rule.isException && !p.rule.isDocumentException) ++
    (lineEntries advanced lines).filter
      (fun p => p.rule.isException && p.rule.isDocumentException)

theorem perm_placedEntries : (placedEntries advanced lines).Perm (lineEntries advanced lines) :=
  perm_filter_parts (fun p : LineEntry => p.rule.isException) (·.rule.isDocumentException) _

variable {advanced lines}

theorem mem_lineEntries_iff {p : LineEntry} : p ∈ lineEntries advanced lines ↔
    ∃ line, lines[p.place]? = some line ∧ compiledLine? advanced line = some p.compiled := by
  simp only [lineEntries, List.mem_filterMap, Prod.exists, List.mk_mem_zipIdx_iff_getElem?,
    LineEntry.ofLine?, Option.map_eq_some_iff]
  constructor
  · rintro ⟨line, _, hline, rule, e, he, rfl⟩
    exact ⟨line, hline, he⟩
  · rintro ⟨line, hline, he⟩
    exact ⟨line, p.place, hline, p.rule, p.entry, he, rfl⟩

/-- No line has two entries. -/
theorem nodup_place_lineEntries : ((lineEntries advanced lines).map (·.place)).Nodup := by
  have hplaces : lines.zipIdx.Pairwise fun a b => a.2 ≠ b.2 := by
    rw [← List.pairwise_map (f := Prod.snd) (R := (· ≠ ·)), List.zipIdx_map_snd]
    exact List.nodup_range'
  rw [List.Nodup, List.pairwise_map, lineEntries]
  refine hplaces.filterMap _ fun a b hne p hp q hq => ?_
  obtain ⟨_, -, rfl⟩ := Option.map_eq_some_iff.1 hp
  obtain ⟨_, -, rfl⟩ := Option.map_eq_some_iff.1 hq
  exact hne

/-- The rules with their entries are those of the list that is read. -/
theorem map_compiled_lineEntries (number : Nat) : (lineEntries advanced lines).map (·.compiled) =
    compiledRules advanced (FilterList.ofLinesFrom number lines).rules := by
  rw [FilterList.rules_ofLinesFrom, compiledRules, lineEntries, List.map_filterMap,
    List.filterMap_filterMap]
  have hcompiled : (fun numbered : String × Nat =>
      (LineEntry.ofLine? advanced numbered).map (·.compiled)) =
        compiledLine? advanced ∘ Prod.fst := by
    funext numbered
    rw [LineEntry.ofLine?, Option.map_map, Function.comp_apply]
    exact Option.map_id_apply
  rw [hcompiled, ← List.filterMap_map, List.zipIdx_map_fst]
  rfl

theorem map_compiled_placedEntries (number : Nat) :
    (placedEntries advanced lines).map (·.compiled) =
      inOrder (compiledRules advanced (FilterList.ofLinesFrom number lines).rules) := by
  rw [← map_compiled_lineEntries, inOrder, List.filter_map, List.filter_map, List.filter_map,
    placedEntries, List.map_append, List.map_append]
  rfl

theorem mem_placedEntries_iff {p : LineEntry} : p ∈ placedEntries advanced lines ↔
    ∃ line, lines[p.place]? = some line ∧ Rule.ofText? line = .ok (some p.rule) ∧
      (p.rule.type = .network ∨ p.rule.type = .hide) ∧ p.rule.compile advanced = .ok p.entry := by
  rw [(perm_placedEntries advanced lines).mem_iff, mem_lineEntries_iff]
  simp only [compiledLine?_eq_some_iff, LineEntry.compiled]

/-- The entries of the rules of some lines, in the order of the content blocker. -/
theorem entries_ofRules_lines (hlines : ∀ line ∈ lines, '\n' ∉ line.toList) :
    (Sorting.ofRules advanced (FilterList.ofText (Text.unlines lines)).rules).entries =
      (placedEntries advanced lines).map (·.entry) := by
  rw [entries_ofRules, FilterList.ofText_unlines hlines, ← map_compiled_placedEntries, List.map_map]
  rfl

/-- What a line is converted to alone is what is placed for it among others. -/
theorem entryText_eq_ok_iff_placed {i : Nat} {line : String} (hi : lines[i]? = some line)
    (hline : '\n' ∉ line.toList) {text : List Char} : entryText line = .ok text ↔
      ∃ p ∈ placedEntries advanced lines, p.place = i ∧ p.entry.serialize.toList = text := by
  rw [entryText_of_line advanced hline]
  simp only [(perm_placedEntries advanced lines).mem_iff, mem_lineEntries_iff]
  constructor
  · rintro ⟨p, hp, htext⟩
    exact ⟨⟨i, p.1, p.2⟩, ⟨line, hi, hp⟩, rfl, htext⟩
  · rintro ⟨p, ⟨line', hline', hp⟩, rfl, htext⟩
    obtain rfl : line' = line := Option.some.inj (hline'.symm.trans hi)
    exact ⟨p.compiled, hp, htext⟩

end

/-! ## Alone and among others -/

/-- **A rule that is converted alone has the entry that it has among others.**  A conversion of lines
that is not strict, with room for all entries, comes to the entries of those lines that have a rule
for a content blocker, one for a line, in the order of the content blocker.  A line can be converted
alone exactly if it has such a rule.  Then the result is the text of the entry that the line has
among the others, and if it cannot be converted alone it has no entry among them. -/
theorem same_entry_alone {lines : List String} (hlines : ∀ line ∈ lines, '\n' ∉ line.toList)
    {options : ConversionOptions} {limit : Nat} (hlimit : options.limit.toNat? = some limit)
    (hstrict : options.strict = false) :
    ∃ result, convertLines lines options = .ok result ∧ (result.totalConvertedCount ≤ limit →
      let placed := placedEntries options.advancedBlocking lines
      result.convertedCount = placed.length ∧
      (placed = [] → result.converted = placeholder) ∧
      (placed ≠ [] → result.converted =
        "[" ++ ",".intercalate (placed.map (·.entry.serialize)) ++ "]") ∧
      placed.map (·.compiled) = inOrder (compiledRules options.advancedBlocking
        (FilterList.ofText (Text.unlines lines)).rules) ∧
      (placed.map (·.place)).Nodup ∧
      (∀ p ∈ placed, ∃ line, lines[p.place]? = some line ∧ Rule.ofText? line = .ok (some p.rule) ∧
        p.rule.compile options.advancedBlocking = .ok p.entry) ∧
      ∀ i line, lines[i]? = some line →
        ((∃ text, entryText line = .ok text) ↔ ∃ rule e, Rule.ofText? line = .ok (some rule) ∧
          (rule.type = .network ∨ rule.type = .hide) ∧
          rule.compile options.advancedBlocking = .ok e) ∧
        (∀ text, entryText line = .ok text →
          ∃ p ∈ placed, p.place = i ∧ p.entry.serialize.toList = text) ∧
        ∀ error, entryText line = .error error → ∀ p ∈ placed, p.place ≠ i) := by
  let list := FilterList.ofText (Text.unlines lines)
  refine ⟨_, convert_of_lenient hlimit list hstrict, fun htotal => ?_⟩
  intro placed
  have hkept : keptEntries list limit options.advancedBlocking = placed.map (·.entry) :=
    (keptEntries_of_total_le htotal).trans (entries_ofRules_lines hlines)
  have hconverted := ConversionResult.converted_ofList list options.advancedBlocking limit
  rw [hkept, blockerText] at hconverted
  refine ⟨?_, fun hnil => ?_, fun hne => ?_, ?_, ?_, fun p hp => ?_, fun i line hi => ?_⟩
  · rw [← ConversionResult.length_keptEntries, hkept, List.length_map]
  · rw [hconverted, hnil]
    rfl
  · rw [hconverted, if_neg (by simpa using hne), serializeEntries_eq_intercalate, List.map_map]
    rfl
  · rw [FilterList.ofText_unlines hlines]
    exact map_compiled_placedEntries 1
  · exact ((perm_placedEntries _ _).map _).nodup_iff.2 nodup_place_lineEntries
  · obtain ⟨line, hline, hread, -, hcompile⟩ := mem_placedEntries_iff.1 hp
    exact ⟨line, hline, hread, hcompile⟩
  · have hline := hlines line (List.mem_of_getElem? hi)
    have htext {text : List Char} : entryText line = .ok text ↔
        ∃ p ∈ placed, p.place = i ∧ p.entry.serialize.toList = text :=
      entryText_eq_ok_iff_placed hi hline
    refine ⟨?_, fun text h => htext.1 h, fun error herror p hp hplace => ?_⟩
    · simp only [entryText_of_line options.advancedBlocking hline, compiledLine?_eq_some_iff]
      constructor
      · rintro ⟨_, p, hp, -⟩
        exact ⟨p.1, p.2, hp⟩
      · rintro ⟨rule, e, h⟩
        exact ⟨_, (rule, e), h, rfl⟩
    · have hok := htext.2 ⟨p, hp, hplace, rfl⟩
      rw [herror] at hok
      cases hok

/-- An exception before a rule, and a script. -/
def exceptionFirst : List String :=
  ["@@||a.example^", "##.ad", "a.example#%#alert(1)"]

/-- The entry of the second line comes first among the others, and it is that of the line alone. -/
theorem same_entry_alone_of_exceptionFirst :
    (∀ line ∈ exceptionFirst, '\n' ∉ line.toList) ∧
      (Number.ofNat maxEntries).toNat? = some maxEntries ∧
      (placedEntries true exceptionFirst).map (·.place) = [1, 0] ∧
      ∃ text result, entryText "##.ad" = .ok text ∧
        convertLines exceptionFirst { advancedBlocking := true } = .ok result ∧
        result.convertedCount = 2 ∧
        ∃ p ∈ placedEntries true exceptionFirst, p.place = 1 ∧ p.entry.serialize.toList = text := by
  have hlines : ∀ line ∈ exceptionFirst, '\n' ∉ line.toList := by decide
  have hplaces : (placedEntries true exceptionFirst).map (·.place) = [1, 0] := by decide +kernel
  have htext : (entryText "##.ad").toOption.isSome = true := by decide +kernel
  obtain ⟨text, htext⟩ := Option.isSome_iff_exists.1 htext
  obtain ⟨result, hresult, h⟩ := @same_entry_alone exceptionFirst hlines
    { advancedBlocking := true } maxEntries toNat?_maxEntries rfl
  have htotal : result.totalConvertedCount ≤ maxEntries := by
    obtain rfl := Except.ok.inj (hresult.symm.trans (convert_of_lenient toNat?_maxEntries _ rfl))
    decide +kernel
  obtain ⟨hcount, -, -, -, -, -, hline⟩ := h htotal
  obtain ⟨-, halone, -⟩ := hline 1 "##.ad" rfl
  have hlength := congrArg List.length hplaces
  rw [List.length_map, ← hcount] at hlength
  exact ⟨hlines, toNat?_maxEntries, hplaces, text, result, toOption_eq_some_iff.1 htext, hresult,
    hlength, halone text (toOption_eq_some_iff.1 htext)⟩

end ContentBlocker
