import ContentBlocker.Proofs.Rule.Reading
import ContentBlocker.Proofs.Text.Occurrence

/-!
# Where the modifiers of a rule begin

The modifiers of a network rule stand behind the first dollar sign (`splitModifiers_append`), unless
the rule begins with a slash.  Then it is taken for a regular expression between slashes, and the
dollar sign has to stand right behind a slash.  A path begins with a slash as well, but it does not
end with one, so the dollar sign behind it is passed over (`separatorAfterSlash?_append`).

So the modifiers of a path are not read as what they are: the whole rule is its pattern, or all of it
up to a dollar sign that stands behind a slash among the modifiers
(`modifiers_of_slash_pattern`).
-/

set_option autoImplicit false
namespace ContentBlocker

open Text (occursIn trimChars trimEndChars)

/-! ## Trimming and parts -/

/-- Blanks behind a character that is none are all that is taken off at the end. -/
theorem trimEndChars_append_cons {c : Char} (hc : Text.isBlank c = false) (s t : List Char) :
    trimEndChars (s ++ c :: t) = s ++ c :: trimEndChars t := by
  have hdrop : (c :: s.reverse).dropWhile Text.isBlank = c :: s.reverse :=
    List.dropWhile_cons_of_neg (by rw [hc]; exact Bool.false_ne_true)
  have hreverse : (s ++ c :: t).reverse = t.reverse ++ c :: s.reverse := by simp
  rw [trimEndChars, hreverse, List.dropWhile_append, hdrop, trimEndChars]
  split
  · rename_i hempty
    rw [List.isEmpty_iff.1 hempty]
    simp
  · simp

theorem CosmeticText.ofChars?_of_not_mem {s : List Char} (h : '#' ∉ s) : ofChars? s = none := by
  have hdrop : (s ++ []).dropWhile (· != '#') = [] := by
    rw [List.dropWhile_append_of_pos, List.dropWhile_nil]
    intro c hc
    simpa using fun heq : c = '#' => h (heq ▸ hc)
  rw [List.append_nil] at hdrop
  rw [ofChars?, hdrop]
  rfl

theorem isRemark_eq_false {s : List Char} (hne : s ≠ []) (hcomment : s.head? ≠ some '!')
    (hheader : s.head? ≠ some '[') : isRemark s = false := by
  rw [isRemark, List.isEmpty_eq_false_iff.2 hne, beq_false_of_ne hcomment,
    beq_false_of_ne hheader]
  rfl

/-- A line without a number sign is read as a network rule if it is no remark. -/
theorem Rule.ofText?_eq_ofNetwork {line : String} {text : List Char}
    (htrim : trimChars line.toList = text) (hremark : isRemark text = false) (hsharp : '#' ∉ text) :
    ofText? line = (ofNetwork text).map some := by
  rw [ofText?, htrim, hremark, CosmeticText.ofChars?_of_not_mem hsharp]
  rfl

/-! ## The first dollar sign -/

/-- Behind a pattern that does not begin with a slash stand its modifiers. -/
theorem splitModifiers_append {pattern options : List Char} (hslash : pattern.head? ≠ some '/')
    (hdollar : '$' ∉ pattern) :
    splitModifiers (pattern ++ '$' :: options) = (pattern, options) := by
  have hidx : (pattern ++ '$' :: options).idxOf? '$' = some pattern.length := by
    rw [List.idxOf?_eq_some_iff]
    refine ⟨by simp, by simp, fun j hj => ?_⟩
    rw [List.getElem_append_left hj]
    exact fun heq => hdollar (heq ▸ List.getElem_mem hj)
  have hseparator : modifierSeparator? (pattern ++ '$' :: options) = some pattern.length := by
    rw [modifierSeparator?, hidx]
    rintro rest heq
    cases pattern with
    | nil => cases heq
    | cons c pattern => exact hslash (congrArg some (List.cons.inj heq).1)
  rw [splitModifiers, hseparator]
  simp

/-! ## A dollar sign behind a slash -/

/-- A separator is found as far behind the start of the text wherever counting begins. -/
theorem separatorAfterSlash?_add (place offset : Nat) (s : List Char) :
    separatorAfterSlash? (place + offset) s = (separatorAfterSlash? place s).map (· + offset) := by
  fun_induction separatorAfterSlash? place s with
  | case1 place => rfl
  | case2 place c rest ih =>
    rw [separatorAfterSlash?, ← ih, Nat.add_right_comm]
  | case3 place rest =>
    rw [separatorAfterSlash?, Option.map_some, Nat.add_right_comm]
  | case4 place c rest hescape hslash ih =>
    rw [separatorAfterSlash?, ← ih, Nat.add_right_comm]
    · exact hescape
    · exact hslash

/-- Where no dollar sign stands behind a slash there is no separator. -/
theorem separatorAfterSlash?_eq_none {place : Nat} {s : List Char}
    (h : occursIn ['/', '$'] s = false) : separatorAfterSlash? place s = none := by
  fun_induction separatorAfterSlash? place s with
  | case1 place => rfl
  | case2 place c rest ih =>
    exact ih (Text.not_occursIn_of_infix (List.infix_append ['\\', c] rest []) (by simpa using h))
  | case3 place rest =>
    rw [occursIn] at h
    simp [List.isPrefixOf] at h
  | case4 place c rest hescape hslash ih =>
    rw [occursIn, Bool.or_eq_false_iff] at h
    exact ih h.2

/-- **A dollar sign is passed over where no slash stands right before it.**  If a backslash does, the
dollar sign is passed over with it. -/
theorem separatorAfterSlash?_append {place : Nat} {s : List Char} (hslash : s.getLast? ≠ some '/')
    (hdollar : '$' ∉ s) (t : List Char) :
    separatorAfterSlash? place (s ++ '$' :: t) =
      separatorAfterSlash? (place + (s.length + 1)) t := by
  fun_induction separatorAfterSlash? place s with
  | case1 place => rfl
  | case2 place c rest ih =>
    have hlast : rest.getLast? ≠ some '/' := by
      cases rest with
      | nil => exact nofun
      | cons d rest => simpa using hslash
    have hrest : '$' ∉ rest := fun hmem =>
      hdollar (List.mem_cons_of_mem _ (List.mem_cons_of_mem _ hmem))
    rw [List.cons_append, List.cons_append, separatorAfterSlash?, ih hlast hrest]
    congr 1
    simp only [List.length_cons]
    omega
  | case3 place rest => exact absurd (by simp) hdollar
  | case4 place c rest hescape hsplit ih =>
    cases rest with
    | nil =>
      have hc : c ≠ '/' := fun heq => hslash (congrArg some heq)
      by_cases hbackslash : c = '\\'
      · -- the dollar sign is the character that is escaped
        rw [hbackslash]
        rfl
      · show separatorAfterSlash? place (c :: '$' :: t) = separatorAfterSlash? (place + 2) t
        rw [separatorAfterSlash?, separatorAfterSlash?]
        · simp
        · simp
        · simpa using hbackslash
        · simpa using hc
    | cons d rest =>
      have hlast : (d :: rest).getLast? ≠ some '/' := by simpa using hslash
      have hrest : '$' ∉ d :: rest := fun hmem => hdollar (List.mem_cons_of_mem _ hmem)
      rw [List.cons_append, separatorAfterSlash?, ih hlast hrest]
      · congr 1
        simp only [List.length_cons]
        omega
      · intro e rest' hc heq
        exact hescape d rest hc rfl
      · intro rest' hc heq
        exact hrest ((List.cons.inj heq).1 ▸ List.mem_cons_self)

/-! ## Network rules -/

/-- The network rule with a given text for a pattern with some modifiers. -/
def Rule.ofPattern (text pattern : List Char) (modifiers : List Modifier) : Rule where
  text := String.ofList text
  permittedDomains := permittedNames (Modifier.listedDomains modifiers)
  restrictedDomains := restrictedNames (Modifier.listedDomains modifiers)
  isException := false
  body := .network <|
    Modifier.toNetworkRule false (String.ofList pattern) (patternRegex? pattern) modifiers

/-- Neither blanks nor characters that rules use for something else. -/
structure IsPlainPattern (pattern : String) : Prop where
  isPlainChar : ∀ c ∈ pattern.toList, Text.isBlank c = false ∧ c ≠ '$' ∧ c ≠ '#'
  /-- It is not taken for an exception, a comment or a header. -/
  head : ∀ c ∈ ['@', '!', '['], pattern.toList.head? ≠ some c

instance : DecidablePred IsPlainPattern := fun pattern =>
  decidable_of_iff
    (pattern.toList.all (fun c => !Text.isBlank c && c != '$' && c != '#') = true ∧
      ['@', '!', '['].all (fun c => pattern.toList.head? != some c) = true)
    ⟨fun ⟨hchars, hhead⟩ => ⟨by simpa [and_assoc] using hchars, by simpa using hhead⟩,
      fun h => ⟨by simpa [and_assoc] using h.isPlainChar, by simpa using h.head⟩⟩

/-- A pattern that begins with a slash and is no regular expression: it is the slash alone, or it
ends in another character. -/
structure IsPathPattern (pattern : String) : Prop extends IsPlainPattern pattern where
  begins : pattern.toList.head? = some '/'
  ends : pattern = "/" ∨ pattern.toList.getLast? ≠ some '/'

instance : DecidablePred IsPathPattern := fun pattern =>
  decidable_of_iff (IsPlainPattern pattern ∧ pattern.toList.head? = some '/' ∧
      (pattern = "/" ∨ pattern.toList.getLast? ≠ some '/'))
    ⟨fun ⟨hplain, hbegins, hends⟩ => ⟨hplain, hbegins, hends⟩,
      fun h => ⟨h.toIsPlainPattern, h.begins, h.ends⟩⟩

/-- A rule that does not begin with an at sign is its pattern and its modifiers. -/
theorem Rule.ofNetwork_eq_map {text : List Char} (h : text.head? ≠ some '@') :
    ofNetwork text =
      (Modifier.readList (splitModifiers text).2).map (ofPattern text (splitModifiers text).1) := by
  have hexception : splitException text = (false, text) := by
    rw [splitException]
    rintro rest rfl
    exact h rfl
  rw [ofNetwork, hexception]
  dsimp only
  cases Modifier.readList (splitModifiers text).2 <;> rfl

namespace IsPlainPattern

variable {pattern options : String} (h : IsPlainPattern pattern)
include h

theorem dollar_not_mem : '$' ∉ pattern.toList :=
  fun hmem => (h.isPlainChar _ hmem).2.1 rfl

/-- A line begins with the pattern. -/
theorem head?_append {c : Char} (hc : c ∈ ['@', '!', '[']) (t : List Char) :
    (pattern.toList ++ '$' :: t).head? ≠ some c := by
  cases hpattern : pattern.toList with
  | nil =>
    rintro heq
    obtain rfl := Option.some.inj heq
    exact absurd hc (by decide)
  | cons d rest =>
    have hhead := h.head c hc
    rwa [hpattern] at hhead

/-- Blanks are taken off behind the modifiers only. -/
theorem trimChars_append (t : List Char) :
    trimChars (pattern.toList ++ '$' :: t) = pattern.toList ++ '$' :: trimEndChars t := by
  have hstart : Text.trimStartChars (pattern.toList ++ '$' :: t) = pattern.toList ++ '$' :: t := by
    rw [Text.trimStartChars]
    cases hpattern : pattern.toList with
    | nil => rfl
    | cons c rest =>
      have hc := (h.isPlainChar c (by rw [hpattern]; exact List.mem_cons_self)).1
      exact List.dropWhile_cons_of_neg (by rw [hc]; exact Bool.false_ne_true)
  rw [trimChars, hstart, trimEndChars_append_cons rfl]

/-- **A line with a plain pattern and modifiers is read as a network rule**: what stands before the
separator is its pattern, and what stands behind is read as its modifiers. -/
theorem ofText?_eq (hsharp : '#' ∉ options.toList) :
    let text := pattern.toList ++ '$' :: trimEndChars options.toList
    Rule.ofText? (pattern ++ "$" ++ options) = (Modifier.readList (splitModifiers text).2).map
      fun modifiers => some (.ofPattern text (splitModifiers text).1 modifiers) := by
  intro text
  have htrim : trimChars (pattern ++ "$" ++ options).toList = text := by
    rw [String.toList_append, String.toList_append, List.append_assoc]
    exact h.trimChars_append options.toList
  have hremark : isRemark text = false :=
    isRemark_eq_false (List.append_ne_nil_of_right_ne_nil _ (List.cons_ne_nil _ _))
      (h.head?_append (by decide) _) (h.head?_append (by decide) _)
  have hnetwork : '#' ∉ text := by
    intro hmem
    rcases List.mem_append.1 hmem with hmem | hmem
    · exact (h.isPlainChar _ hmem).2.2 rfl
    · obtain ⟨blanks, hblanks, -⟩ := Text.trimEndChars_append_blanks options.toList
      rcases List.mem_cons.1 hmem with hmem | hmem
      · cases hmem
      · rw [hblanks] at hsharp
        exact hsharp (List.mem_append_left _ hmem)
  rw [Rule.ofText?_eq_ofNetwork htrim hremark hnetwork,
    Rule.ofNetwork_eq_map (h.head?_append (by decide) _)]
  cases Modifier.readList (splitModifiers text).2 <;> rfl

end IsPlainPattern

/-- **The dollar sign behind a path is no separator.**  The first one behind a slash among the
modifiers is, if there is one. -/
theorem IsPathPattern.splitModifiers_eq {pattern : String} (h : IsPathPattern pattern)
    (options : List Char) : splitModifiers (pattern.toList ++ '$' :: options) =
      match separatorAfterSlash? 0 options with
      | none => (pattern.toList ++ '$' :: options, [])
      | some place =>
        (pattern.toList ++ '$' :: options.take place, options.drop (place + 1)) := by
  obtain ⟨rest, hpattern⟩ := List.head?_eq_some_iff.1 h.begins
  have hdollar : '$' ∉ rest := fun hmem =>
    h.dollar_not_mem (by rw [hpattern]; exact List.mem_cons_of_mem _ hmem)
  have hslash : rest.getLast? ≠ some '/' := by
    cases rest with
    | nil => exact nofun
    | cons c rest =>
      rcases h.ends with heq | hends
      · rw [heq] at hpattern
        cases hpattern
      · rw [hpattern] at hends
        simpa using hends
  have hseparator : modifierSeparator? (pattern.toList ++ '$' :: options) =
      (separatorAfterSlash? 0 options).map (· + (pattern.toList.length + 1)) := by
    rw [hpattern, List.cons_append, modifierSeparator?, separatorAfterSlash?_append hslash hdollar,
      ← separatorAfterSlash?_add, List.length_cons]
    congr 1
    omega
  rw [splitModifiers, hseparator]
  cases separatorAfterSlash? 0 options with
  | none => rfl
  | some place =>
    have htake : (pattern.toList ++ '$' :: options).take (place + (pattern.toList.length + 1)) =
        pattern.toList ++ '$' :: options.take place := by
      rw [Nat.add_comm place, Nat.add_assoc, List.take_length_add_append, Nat.add_comm 1,
        List.take_succ_cons]
    have hdrop : (pattern.toList ++ '$' :: options).drop (place + (pattern.toList.length + 1) + 1) =
        options.drop (place + 1) := by
      rw [Nat.add_right_comm, Nat.add_comm (place + 1), Nat.add_assoc, List.drop_length_add_append,
        Nat.add_comm 1, List.drop_succ_cons]
    rw [Option.map_some]
    dsimp only
    rw [htake, hdrop]

/-- **The modifiers of a path are not read as what they are.**  Behind another pattern the modifiers
of a rule are read and change the rule.  Behind a path they are a part of the pattern: all of them if
no dollar sign stands behind a slash among them, and else those up to the first that does, while what
stands behind it is read as the modifiers.  So no rule that is read has the path for its pattern. -/
theorem modifiers_of_slash_pattern {options : String} (hsharp : '#' ∉ options.toList) :
    let trimmed := trimEndChars options.toList
    (∀ pattern, IsPlainPattern pattern → pattern.toList.head? ≠ some '/' →
      ∀ modifiers, Modifier.readList trimmed = .ok modifiers →
        Rule.ofText? (pattern ++ "$" ++ options) =
          .ok (some (.ofPattern (pattern.toList ++ '$' :: trimmed) pattern.toList modifiers))) ∧
    ∀ pattern, IsPathPattern pattern →
      let text := pattern.toList ++ '$' :: trimmed
      (occursIn ['/', '$'] trimmed = false →
        Rule.ofText? (pattern ++ "$" ++ options) = .ok (some (.ofPattern text text []))) ∧
      (∀ place, separatorAfterSlash? 0 trimmed = some place →
        Rule.ofText? (pattern ++ "$" ++ options) =
          (Modifier.readList (trimmed.drop (place + 1))).map fun modifiers =>
            some (.ofPattern text (pattern.toList ++ '$' :: trimmed.take place) modifiers)) ∧
      ∀ rule network, Rule.ofText? (pattern ++ "$" ++ options) = .ok (some rule) →
        rule.body = .network network → network.pattern ≠ pattern := by
  intro trimmed
  refine ⟨fun pattern hplain hslash modifiers hread => ?_, fun pattern hpath => ?_⟩
  · rw [hplain.ofText?_eq hsharp, splitModifiers_append hslash hplain.dollar_not_mem, hread]
    rfl
  intro text
  have hsplit := hpath.splitModifiers_eq trimmed
  have hline := hpath.toIsPlainPattern.ofText?_eq hsharp
  refine ⟨fun hnone => ?_, fun place hplace => ?_, fun rule network hrule hbody heq => ?_⟩
  · rw [separatorAfterSlash?_eq_none hnone] at hsplit
    rw [hline, hsplit]
    rfl
  · rw [hplace] at hsplit
    rw [hline, hsplit]
  · rw [hline] at hrule
    obtain ⟨modifiers, -, hrule⟩ := map_eq_ok_iff.1 hrule
    obtain rfl := Option.some.inj hrule
    obtain rfl := RuleBody.network.inj hbody
    -- the pattern of the rule is longer than the path
    have hlength := congrArg (·.toList.length) heq
    simp only [Modifier.toNetworkRule, String.toList_ofList] at hlength
    rw [hsplit] at hlength
    cases hplace : separatorAfterSlash? 0 trimmed with
    | none =>
      rw [hplace] at hlength
      simp at hlength
    | some place =>
      rw [hplace] at hlength
      simp at hlength

theorem modifiers_of_slash_pattern_of_image : '#' ∉ "image".toList ∧
    Rule.ofText? ("banner" ++ "$" ++ "image") =
      .ok (some (.ofPattern "banner$image".toList "banner".toList [.contentType false .image])) ∧
    Rule.ofText? ("/ads/banner" ++ "$" ++ "image") =
      .ok (some (.ofPattern "/ads/banner$image".toList "/ads/banner$image".toList [])) := by
  have hsharp : '#' ∉ "image".toList := by decide
  obtain ⟨hother, hpath⟩ := modifiers_of_slash_pattern hsharp
  obtain ⟨hnone, -, -⟩ := hpath "/ads/banner" (by decide)
  exact ⟨hsharp, hother "banner" (by decide) (by decide) _ (by decide), hnone (by decide)⟩

/-- **A path does not keep its modifiers**: a rule for images at a path is read as a rule for
everything at a URL with a dollar sign in it. -/
theorem path_loses_modifiers : ¬ ∀ pattern options modifiers, IsPathPattern pattern →
    '#' ∉ options.toList → modifiers ≠ [] →
    Modifier.readList (trimEndChars options.toList) = .ok modifiers →
      ∃ rule, Rule.ofText? (pattern ++ "$" ++ options) = .ok (some rule) ∧
        rule.body = .network (Modifier.toNetworkRule false pattern
          (patternRegex? pattern.toList) modifiers) := by
  intro hall
  obtain ⟨rule, hrule, hbody⟩ := hall "/ads/banner" "image" [.contentType false .image]
    (by decide) (by decide) (List.cons_ne_nil _ _) (by decide)
  have hread : Rule.ofText? ("/ads/banner" ++ "$" ++ "image") =
      .ok (some (.ofPattern "/ads/banner$image".toList "/ads/banner$image".toList [])) := by
    decide +kernel
  obtain rfl := Option.some.inj (Except.ok.inj (hread.symm.trans hrule))
  have hpattern := congrArg (·.pattern) (RuleBody.network.inj hbody)
  revert hpattern
  decide

end ContentBlocker
