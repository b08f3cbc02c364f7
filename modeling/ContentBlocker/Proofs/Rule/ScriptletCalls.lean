import ContentBlocker.Proofs.Json.ReadBack
import ContentBlocker.Proofs.Rule.WrittenCosmetic

/-!
# Calls of scriptlets are read as they are written

What a call looks like is said here without regard to how it is read: `SpellsText` is about what
stands between two quotation marks, `SpellsArguments` about a list of arguments with anything that
may stand between them, and `Spells` about the whole call.  Reading follows this grammar in both
directions (`readQuoted_eq_some_iff`, `readArguments_eq_ok_iff`, `ofChars_eq_ok_iff`): nothing else
is read, and what is spelled is never refused.

Any text can be an argument.  Between its marks a backslash goes before a mark of the same kind and
before a backslash, and marks of the other kind, commas and parentheses stand for themselves
(`QuotedArgument`).  `ScriptletLine` is a rule whose call is written in this way.  What it hands to
the scriptlet is JSON, and is read as the name and the arguments again (`read_compact_toJson`).
-/

set_option autoImplicit false
namespace ContentBlocker
namespace ScriptletCall

/-! ## The grammar of calls -/

/-- How a text can be written between two marks.  A character stands for itself, or it stands behind
a backslash, as the mark and the backslash have to. -/
inductive SpellsText (mark : Char) : List Char → List Char → Prop
  | nil : SpellsText mark [] []
  | plain {c : Char} {s text : List Char} (ne_mark : c ≠ mark) (ne_backslash : c ≠ '\\')
      (spells : SpellsText mark s text) : SpellsText mark (c :: s) (c :: text)
  | escaped (c : Char) {s text : List Char} (spells : SpellsText mark s text) :
      SpellsText mark ('\\' :: c :: s) (c :: text)

/-- How a list of arguments can be written. -/
inductive SpellsArguments : List Char → List (List Char) → Prop
  | nil : SpellsArguments [] []
  | separator {c : Char} {s : List Char} {texts : List (List Char)}
      (space_or_comma : c = ' ' ∨ c = ',') (spells : SpellsArguments s texts) :
      SpellsArguments (c :: s) texts
  | quoted {mark : Char} {s text rest : List Char} {texts : List (List Char)}
      (single_or_double : mark = '\'' ∨ mark = '"') (inside : SpellsText mark s text)
      (spells : SpellsArguments rest texts) :
      SpellsArguments (mark :: (s ++ mark :: rest)) (text :: texts)

/-- How a call can be written: the first of its arguments is the name, and that is not empty. -/
inductive Spells : List Char → ScriptletCall → Prop
  | intro {inner name : List Char} {arguments : List (List Char)}
      (spells : SpellsArguments inner (name :: arguments)) (name_ne_nil : name ≠ []) :
      Spells (opening ++ inner ++ [')']) ⟨String.ofList name, arguments.map String.ofList⟩

/-! ## Reading follows the grammar -/

theorem readQuoted_of_spells {mark : Char} {s text : List Char} (h : SpellsText mark s text)
    (rest : List Char) (hmark : mark ≠ '\\') :
    readQuoted mark (s ++ mark :: rest) = some (text, rest) := by
  induction h with
  | nil => simp [readQuoted, hmark]
  | plain hne hslash _ ih => simp [readQuoted, hne, hslash, ih]
  | escaped c _ ih => simp [readQuoted, ih]

theorem exists_spells_of_readQuoted {mark : Char} {s text rest : List Char}
    (h : readQuoted mark s = some (text, rest)) :
    ∃ inside, SpellsText mark inside text ∧ s = inside ++ mark :: rest := by
  fun_induction readQuoted mark s generalizing text with
  | case1 => cases h
  | case2 => cases h
  | case3 c s ih =>
    obtain ⟨⟨text, _⟩, hread, heq⟩ := Option.map_eq_some_iff.1 h
    cases heq
    obtain ⟨inside, hinside, rfl⟩ := ih hread
    exact ⟨'\\' :: c :: inside, .escaped c hinside, rfl⟩
  | case4 s hlast hescape =>
    cases h
    exact ⟨[], .nil, rfl⟩
  | case5 c s hlast hescape hne ih =>
    obtain ⟨⟨text, _⟩, hread, heq⟩ := Option.map_eq_some_iff.1 h
    cases heq
    obtain ⟨inside, hinside, rfl⟩ := ih hread
    -- A backslash that is not the last character would have been read as an escape.
    have hslash : c ≠ '\\' := by
      rintro rfl
      obtain ⟨d, tail, htail⟩ := List.exists_cons_of_ne_nil
        (List.append_ne_nil_of_right_ne_nil inside (List.cons_ne_nil mark rest))
      exact hescape d tail rfl htail
    exact ⟨c :: inside, .plain hne hslash hinside, rfl⟩

/-- **A text between marks is read exactly if it is spelled.** -/
theorem readQuoted_eq_some_iff {mark : Char} (hmark : mark ≠ '\\') {s text rest : List Char} :
    readQuoted mark s = some (text, rest) ↔
      ∃ inside, SpellsText mark inside text ∧ s = inside ++ mark :: rest := by
  constructor
  · exact exists_spells_of_readQuoted
  · rintro ⟨inside, hinside, rfl⟩
    exact readQuoted_of_spells hinside rest hmark

theorem readArguments_of_spells {s : List Char} {texts : List (List Char)}
    (h : SpellsArguments s texts) : readArguments s = .ok texts := by
  induction h with
  | nil => rw [readArguments]
  | separator hc _ ih => rw [readArguments, if_pos hc, ih]
  | @quoted mark s text rest texts hmark hinside _ ih =>
    have hnot : ¬ (mark = ' ' ∨ mark = ',') := by
      rcases hmark with rfl | rfl <;> decide
    have hread : readQuoted mark (s ++ mark :: rest) = some (text, rest) :=
      readQuoted_of_spells hinside rest (by rcases hmark with rfl | rfl <;> decide)
    rw [readArguments, if_neg hnot, if_pos hmark]
    split
    · rename_i hnone
      rw [hread] at hnone
      cases hnone
    · rename_i hsome
      rw [hread] at hsome
      cases hsome
      rw [ih]
      rfl

theorem spells_of_readArguments {s : List Char} {texts : List (List Char)}
    (h : readArguments s = .ok texts) : SpellsArguments s texts := by
  fun_induction readArguments s generalizing texts with
  | case1 =>
    cases h
    exact .nil
  | case2 c s hc ih => exact .separator hc (ih h)
  | case3 => cases h
  | case4 mark s _ hmark text rest hread ih =>
    obtain ⟨texts, htexts, rfl⟩ := map_eq_ok_iff.1 h
    obtain ⟨inside, hinside, rfl⟩ := exists_spells_of_readQuoted hread
    exact .quoted hmark hinside (ih htexts)
  | case5 => cases h

/-- **Arguments are read exactly if they are spelled.** -/
theorem readArguments_eq_ok_iff {s : List Char} {texts : List (List Char)} :
    readArguments s = .ok texts ↔ SpellsArguments s texts :=
  ⟨spells_of_readArguments, readArguments_of_spells⟩

/-- The last character of the opening is no closing parenthesis, so one at the end stands behind
it. -/
theorem exists_inner {s : List Char} (hopening : opening <+: s) (hlast : s.getLast? = some ')') :
    ∃ inner, s = opening ++ inner ++ [')'] := by
  obtain ⟨rest, rfl⟩ := hopening
  rcases List.eq_nil_or_concat rest with rfl | ⟨inner, c, rfl⟩
  · rw [List.append_nil] at hlast
    exact absurd hlast (by decide)
  · rw [List.concat_eq_append, ← List.append_assoc, List.getLast?_concat] at hlast
    obtain rfl := Option.some.inj hlast
    exact ⟨inner, by rw [List.concat_eq_append, List.append_assoc]⟩

/-- All that there is in a call between its parentheses. -/
theorem ofChars_inner_eq_ok_iff {inner : List Char} {call : ScriptletCall} :
    ofChars (opening ++ inner ++ [')']) = .ok call ↔ ∃ name arguments,
      readArguments inner = .ok (name :: arguments) ∧ name ≠ [] ∧
      call = ⟨String.ofList name, arguments.map String.ofList⟩ := by
  have hinner : ((opening ++ inner ++ [')']).drop opening.length).dropLast = inner := by
    rw [List.append_assoc, List.drop_left, List.dropLast_concat]
  rw [ofChars, if_pos List.getLast?_concat, hinner]
  cases readArguments inner with
  | error fault =>
    refine iff_of_false (fun h => ?_) fun ⟨_, _, h, _⟩ => nomatch h
    cases fault <;> cases h
  | ok texts =>
    cases texts with
    | nil => simp
    | cons name arguments =>
      dsimp only
      rw [ite_error_eq_ok_iff, List.isEmpty_iff]
      constructor
      · rintro ⟨hne, h⟩
        exact ⟨name, arguments, rfl, hne, (Except.ok.inj h).symm⟩
      · rintro ⟨_, _, h, hne, rfl⟩
        cases h
        exact ⟨hne, rfl⟩

/-- **A text that begins as calls do is read exactly if it is a call.** -/
theorem ofChars_eq_ok_iff {s : List Char} (h : opening <+: s) {call : ScriptletCall} :
    ofChars s = .ok call ↔ Spells s call := by
  constructor
  · intro hread
    have hlast : s.getLast? = some ')' := by
      by_contra hlast
      rw [ofChars, if_neg hlast] at hread
      cases hread
    obtain ⟨inner, rfl⟩ := exists_inner h hlast
    obtain ⟨name, arguments, htexts, hne, rfl⟩ := ofChars_inner_eq_ok_iff.1 hread
    exact .intro (spells_of_readArguments htexts) hne
  · rintro @⟨inner, name, arguments, hspells, hne⟩
    exact ofChars_inner_eq_ok_iff.2
      ⟨name, arguments, readArguments_of_spells hspells, hne, rfl⟩

/-- What a call hands to the scriptlet is its name and its arguments. -/
theorem read_compact_toJson (call : ScriptletCall) : Json.read call.toJson.compact =
    some (.obj [("name", .str call.name), ("args", .arr (call.arguments.map .str))]) := by
  refine Json.NumberFree.read_compact (.obj fun m hm => ?_)
  rcases List.mem_pair.1 hm with rfl | rfl
  · exact .str _
  · refine .arr fun v hv => ?_
    obtain ⟨s, -, rfl⟩ := List.mem_map.1 hv
    exact .str s

end ScriptletCall

/-! ## Writing calls -/

/-- A text as it is written as an argument. -/
structure QuotedArgument where
  /-- Whether its marks are double ones. -/
  double : Bool
  text : String

namespace QuotedArgument

open ScriptletCall

/-- The mark before and behind an argument. -/
def mark (argument : QuotedArgument) : Char :=
  if argument.double then '"' else '\''

/-- How a character is written between two marks. -/
def escape (mark c : Char) : List Char :=
  if c = mark ∨ c = '\\' then ['\\', c] else [c]

/-- An argument between its marks. -/
def chars (argument : QuotedArgument) : List Char :=
  argument.mark :: (argument.text.toList.flatMap (escape argument.mark) ++ [argument.mark])

theorem single_or_double (argument : QuotedArgument) :
    argument.mark = '\'' ∨ argument.mark = '"' := by
  rw [mark]
  split
  · exact .inr rfl
  · exact .inl rfl

theorem spellsText_escape (mark : Char) (text : List Char) :
    SpellsText mark (text.flatMap (escape mark)) text := by
  induction text with
  | nil => exact .nil
  | cons c text ih =>
    rw [List.flatMap_cons, escape]
    split
    · exact .escaped c ih
    · rename_i hc
      rw [not_or] at hc
      exact .plain hc.1 hc.2 ih

/-- Arguments with commas between them are a list of arguments. -/
theorem spellsArguments_chars (arguments : List QuotedArgument) :
    SpellsArguments ([','].intercalate (arguments.map chars))
      (arguments.map (·.text.toList)) := by
  induction arguments with
  | nil => exact .nil
  | cons argument arguments ih =>
    have hquoted {rest : List Char} {texts : List (List Char)} (h : SpellsArguments rest texts) :
        SpellsArguments (argument.chars ++ rest) (argument.text.toList :: texts) := by
      rw [chars, List.cons_append, List.append_assoc]
      exact .quoted argument.single_or_double (spellsText_escape _ _) h
    rw [List.map_cons, List.map_cons]
    by_cases hne : arguments = []
    · subst hne
      simpa using hquoted .nil
    · rw [List.intercalate_cons_of_ne_nil (by simpa using hne), List.append_assoc]
      exact hquoted (.separator (.inr rfl) ih)

theorem mem_chars {argument : QuotedArgument} {c : Char} (h : c ∈ argument.chars) :
    c ∈ ['\'', '"', '\\'] ∨ c ∈ argument.text.toList := by
  have hmark : argument.mark ∈ ['\'', '"', '\\'] := by
    rcases argument.single_or_double with h | h <;> rw [h] <;> decide
  rcases List.mem_cons.1 h with rfl | h
  · exact .inl hmark
  · rcases List.mem_append.1 h with h | h
    · obtain ⟨d, hd, hc⟩ := List.mem_flatMap.1 h
      rw [escape] at hc
      split at hc
      · rcases List.mem_pair.1 hc with rfl | rfl
        · exact .inl (by decide)
        · exact .inr hd
      · exact .inr (List.mem_singleton.1 hc ▸ hd)
    · exact .inl (List.mem_singleton.1 h ▸ hmark)

end QuotedArgument

/-! ## Rules with a call -/

/-- A scriptlet rule as it can be written. -/
structure ScriptletLine where
  domains : List ListedDomain
  isException : Bool
  name : QuotedArgument
  arguments : List QuotedArgument
  isDomainName : ∀ d ∈ domains, IsDomainName d.name
  name_ne_empty : name.text ≠ ""

namespace ScriptletLine

open ScriptletCall (opening)

variable (line : ScriptletLine)

/-- The call that is meant. -/
def call : ScriptletCall where
  name := line.name.text
  arguments := line.arguments.map (·.text)

/-- The call as it is written. -/
def callChars : List Char :=
  opening ++ [','].intercalate ((line.name :: line.arguments).map (·.chars)) ++ [')']

/-- The parts of the text of the rule. -/
def parts : CosmeticText where
  domains := ListedDomain.listChars line.domains
  marker := ⟨line.isException, .script⟩
  content := line.callChars

/-- The text of the rule. -/
def text : String :=
  String.ofList line.parts.chars

/-- The rule that is meant, where a text and a parameter are given. -/
def rule (text parameter : String) : Rule where
  text := text
  permittedDomains := permittedNames line.domains
  restrictedDomains := restrictedNames line.domains
  isException := line.isException
  body := .scriptlet line.name.text parameter

/-- All of the call is on one line. -/
def OneLine : Prop :=
  ∀ argument ∈ line.name :: line.arguments, ∀ c ∈ argument.text.toList, isLineEnd c = false

theorem spells_callChars : ScriptletCall.Spells line.callChars line.call := by
  have hspells := QuotedArgument.spellsArguments_chars (line.name :: line.arguments)
  have hcall := ScriptletCall.Spells.intro hspells fun hnil =>
    line.name_ne_empty (String.toList_inj.1 hnil)
  simpa [callChars, call, Function.comp_def] using hcall

theorem opening_prefix : opening <+: line.callChars := by
  rw [callChars, List.append_assoc]
  exact List.prefix_append _ _

theorem ofChars_callChars : ScriptletCall.ofChars line.callChars = .ok line.call :=
  (ScriptletCall.ofChars_eq_ok_iff line.opening_prefix).2 line.spells_callChars

theorem callChars_ne_nil : line.callChars ≠ [] :=
  List.append_ne_nil_of_right_ne_nil _ (List.cons_ne_nil _ _)

theorem trimChars_callChars : Text.trimChars line.callChars = line.callChars := by
  refine Text.trimChars_eq_self (fun c hc => ?_) fun c hc => ?_
  · obtain ⟨rest, hrest⟩ := line.opening_prefix
    rw [← hrest] at hc
    obtain rfl := Option.some.inj hc
    rfl
  · rw [callChars, List.getLast?_concat] at hc
    obtain rfl := Option.some.inj hc
    rfl

theorem toRule_parts (text : String) :
    line.parts.toRule text = .ok (line.rule text line.call.toJson.compact) := by
  have htrim : Text.trimChars line.parts.content = line.callChars := line.trimChars_callChars
  refine CosmeticText.toRule_eq_ok_iff.2 ⟨.script, line.domains,
    .scriptlet line.call.name line.call.toJson.compact, rfl, ?_,
    ListedDomain.readList_listChars line.isDomainName, ?_, rfl⟩
  · rw [htrim]
    exact line.callChars_ne_nil
  · rw [htrim, RuleBody.ofContent, if_pos (List.isPrefixOf_iff_prefix.2 line.opening_prefix),
      line.ofChars_callChars]
    rfl

theorem isLineEnd_eq_false_iff {s : List Char} :
    (∀ c ∈ s, isLineEnd c = false) ↔ s.any isLineEnd = false := by
  simp

theorem isWritten_parts (h : line.OneLine) : line.parts.IsWritten where
  exists_domains := ⟨line.domains, line.isDomainName, rfl⟩
  content_ne_nil := line.callChars_ne_nil
  trimChars_content := line.trimChars_callChars
  one_line := by
    have hopening : ∀ c ∈ opening, isLineEnd c = false := isLineEnd_eq_false_iff.2 rfl
    have hmarks : ∀ c ∈ ['\'', '"', '\\'], isLineEnd c = false := isLineEnd_eq_false_iff.2 rfl
    refine isLineEnd_eq_false_iff.1 fun c hc => ?_
    rcases List.mem_append.1 hc with hc | hc
    · rcases List.mem_append.1 hc with hc | hc
      · exact hopening c hc
      · rcases mem_intercalate hc with hc | ⟨s, hs, hc⟩
        · obtain rfl := List.mem_singleton.1 hc
          rfl
        · obtain ⟨argument, hargument, rfl⟩ := List.mem_map.1 hs
          exact (QuotedArgument.mem_chars hc).elim (hmarks c) (h argument hargument c)
    · obtain rfl := List.mem_singleton.1 hc
      rfl

theorem ofText?_text (h : line.OneLine) :
    Rule.ofText? line.text = .ok (some (line.rule line.text line.call.toJson.compact)) := by
  rw [text, (line.isWritten_parts h).ofText?_chars, line.toRule_parts]
  rfl

end ScriptletLine

/-- **A call is read exactly if it is spelled, and any name and arguments can be written as one.**
The rule on a line with such a call is for the scriptlet of that name, and its parameter is JSON for
the name and the arguments.  A text on more than one line is no cosmetic rule as a whole, but in its
parts it is read all the same. -/
theorem scriptletCall_read_iff_spelled :
    (∀ s call, ScriptletCall.opening <+: s →
      (ScriptletCall.ofChars s = .ok call ↔ ScriptletCall.Spells s call)) ∧
    ∀ line : ScriptletLine,
      ScriptletCall.ofChars line.callChars =
        .ok ⟨line.name.text, line.arguments.map (·.text)⟩ ∧
      ∃ parameter,
        Json.read parameter = some (.obj [("name", .str line.name.text),
          ("args", .arr (line.arguments.map (.str ·.text)))]) ∧
        (∀ text, line.parts.toRule text = .ok (line.rule text parameter)) ∧
        (line.OneLine → Rule.ofText? line.text = .ok (some (line.rule line.text parameter))) := by
  refine ⟨fun s call h => ScriptletCall.ofChars_eq_ok_iff h, fun line => ?_⟩
  have hjson := ScriptletCall.read_compact_toJson line.call
  rw [ScriptletLine.call, List.map_map] at hjson
  exact ⟨line.ofChars_callChars, line.call.toJson.compact, hjson, line.toRule_parts,
    line.ofText?_text⟩

/-- A rule for one site whose call has marks of both kinds, a backslash and a parenthesis in its
arguments, and a call with a space, two commas and an escape that it does not need. -/
theorem scriptletCall_read_iff_spelled_of_marks :
    ScriptletCall.Spells "//scriptlet( \"it's\",,'\\a)')".toList ⟨"it's", ["a)"]⟩ ∧
    ∃ line : ScriptletLine, line.OneLine ∧
      line.text = "a.com#%#//scriptlet('it\\'s',\"\\\\)'\")" ∧ ∃ parameter,
        Json.read parameter =
          some (.obj [("name", .str "it's"), ("args", .arr [.str "\\)'"])]) ∧
        Rule.ofText? line.text =
          .ok (some ⟨line.text, ["a.com"], [], false, .scriptlet "it's" parameter⟩) := by
  have hread : ScriptletCall.ofChars "//scriptlet( \"it's\",,'\\a)')".toList =
      .ok ⟨"it's", ["a)"]⟩ := by decide +kernel
  let line : ScriptletLine := {
    domains := [⟨false, "a.com"⟩]
    isException := false
    name := ⟨false, "it's"⟩
    arguments := [⟨true, "\\)'"⟩]
    isDomainName := List.forall_mem_singleton.2 (by decide)
    name_ne_empty := by decide }
  have hline : line.OneLine := by
    intro argument hargument
    refine ScriptletLine.isLineEnd_eq_false_iff.2 ?_
    rcases List.mem_pair.1 hargument with rfl | rfl <;> decide
  obtain ⟨-, parameter, hjson, -, htext⟩ := scriptletCall_read_iff_spelled.2 line
  exact ⟨(scriptletCall_read_iff_spelled.1 _ _ (by decide)).1 hread, line, hline,
    by decide +kernel, parameter, hjson, htext hline⟩

end ContentBlocker
