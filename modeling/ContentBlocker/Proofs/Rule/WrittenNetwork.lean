import ContentBlocker.Proofs.Rule.RegexBody
import ContentBlocker.Proofs.Rule.Spelling

/-!
# Network rules are read as they are written

A network rule is written as the two at signs of an exception, its pattern, and behind a dollar sign
its modifiers with commas between them (`networkChars`).  A pattern that keeps apart from what is
written around it (`IsWrittenPattern`) is found again (`splitException_networkChars`,
`StopsAtDollar.splitModifiers_optionChars`), and so are the modifiers.

What modifiers mean for a rule is said by `IsNetworkRule` for each of its properties: which of them
the lists come from, which have to be there for a property to be on, and that the last one counts
where several are about the same property.  `ofText?_networkChars` is the result.
-/

set_option autoImplicit false
namespace ContentBlocker

/-! ## Writing -/

/-- The modifiers of a rule behind their dollar sign, if there are any. -/
def optionChars (options : List (List Char)) : List Char :=
  if options = [] then [] else '$' :: [','].intercalate options

/-- A network rule as it is written. -/
def networkChars (isException : Bool) (pattern : List Char) (options : List (List Char)) :
    List Char :=
  (if isException then ['@', '@'] else []) ++ pattern ++ optionChars options

/-- A pattern that keeps apart from what is written around it. -/
structure IsWrittenPattern (pattern : List Char) : Prop where
  noBlanks : Text.NoBlanks pattern
  sharp_not_mem : '#' ∉ pattern
  not_comment : pattern.head? ≠ some '!'
  not_header : pattern.head? ≠ some '['
  not_exception : ¬ ['@', '@'] <+: pattern
  stopsAtDollar : StopsAtDollar pattern

theorem head?_optionChars {options : List (List Char)} {c : Char}
    (h : (optionChars options).head? = some c) : c = '$' := by
  rw [optionChars] at h
  split at h
  · cases h
  · exact (Option.some.inj h).symm

theorem mem_optionChars {options : List (List Char)} {c : Char} (h : c ∈ optionChars options) :
    c = '$' ∨ c = ',' ∨ ∃ s ∈ options, c ∈ s := by
  rw [optionChars] at h
  split at h
  · cases h
  · refine (List.mem_cons.1 h).imp id fun h => ?_
    exact (mem_intercalate h).imp List.mem_singleton.1 id

/-! ## Finding the parts again -/

theorem splitException_networkChars {isException : Bool} {pattern : List Char}
    (h : isException = false → ¬ ['@', '@'] <+: pattern) (options : List (List Char)) :
    splitException (networkChars isException pattern options) =
      (isException, pattern ++ optionChars options) := by
  cases isException with
  | true => rfl
  | false =>
    show splitException (pattern ++ optionChars options) = _
    rw [splitException]
    intro rest heq
    cases pattern with
    | nil => cases head?_optionChars (congrArg List.head? heq)
    | cons c tail =>
      obtain ⟨rfl, htail⟩ := List.cons.inj heq
      cases tail with
      | nil => cases head?_optionChars (congrArg List.head? htail)
      | cons d tail =>
        obtain ⟨rfl, -⟩ := List.cons.inj htail
        exact h rfl ⟨tail, rfl⟩

theorem StopsAtDollar.splitModifiers_optionChars {pattern : List Char} (h : StopsAtDollar pattern)
    (options : List (List Char)) :
    splitModifiers (pattern ++ optionChars options) = (pattern, [','].intercalate options) := by
  rw [optionChars]
  split
  · rename_i hnil
    rw [hnil, List.append_nil, h.splitModifiers_eq]
    rfl
  · exact h.splitModifiers_append _

section
variable {pattern : List Char} (h : IsWrittenPattern pattern)
include h

theorem isPlainChar_networkChars (isException : Bool) {options : List (List Char)}
    (hplain : ∀ s ∈ options, Modifier.IsPlainOption s) :
    ∀ c ∈ networkChars isException pattern options, Text.isBlank c = false ∧ c ≠ '#' := by
  intro c hc
  rw [networkChars, List.mem_append, List.mem_append] at hc
  rcases hc with (hc | hc) | hc
  · cases isException with
    | true =>
      obtain rfl : c = '@' := by simpa using hc
      exact ⟨rfl, by decide⟩
    | false => cases hc
  · exact ⟨h.noBlanks c hc, fun heq => h.sharp_not_mem (heq ▸ hc)⟩
  · rcases mem_optionChars hc with rfl | rfl | ⟨s, hs, hc⟩
    · exact ⟨rfl, by decide⟩
    · exact ⟨rfl, by decide⟩
    · exact ⟨(hplain s hs).noBlanks c hc, fun heq => (hplain s hs).sharp_not_mem (heq ▸ hc)⟩

theorem isRemark_networkChars {isException : Bool} {options : List (List Char)}
    (hne : networkChars isException pattern options ≠ []) :
    isRemark (networkChars isException pattern options) = false := by
  cases isException with
  | true => exact isRemark_eq_false hne nofun nofun
  | false =>
    cases pattern with
    | nil =>
      refine isRemark_eq_false hne (fun hhead => ?_) fun hhead => ?_
      · cases head?_optionChars hhead
      · cases head?_optionChars hhead
    | cons c tail => exact isRemark_eq_false hne h.not_comment h.not_header

/-- **A written rule is read as a network rule**, with the pattern and the modifiers that were
written. -/
theorem ofText?_eq_of_written (isException : Bool) {options : List (List Char)}
    (hplain : ∀ s ∈ options, Modifier.IsPlainOption s)
    (hne : networkChars isException pattern options ≠ []) {modifiers : List Modifier}
    (hread : Modifier.readList ([','].intercalate options) = .ok modifiers) :
    let text := String.ofList (networkChars isException pattern options)
    Rule.ofText? text = .ok (some {
      text := text
      permittedDomains := permittedNames (Modifier.listedDomains modifiers)
      restrictedDomains := restrictedNames (Modifier.listedDomains modifiers)
      isException := isException
      body := .network <| Modifier.toNetworkRule isException (String.ofList pattern)
        (patternRegex? pattern) modifiers }) := by
  intro text
  have hchars := isPlainChar_networkChars h isException hplain
  have htrim : Text.trimChars text.toList = networkChars isException pattern options := by
    rw [String.toList_ofList]
    exact Text.NoBlanks.trimChars_eq fun c hc => (hchars c hc).1
  rw [Rule.ofText?_eq_ofNetwork htrim (isRemark_networkChars h hne) fun hmem =>
    (hchars '#' hmem).2 rfl, Rule.ofNetwork, splitException_networkChars fun _ => h.not_exception]
  dsimp only
  rw [h.stopsAtDollar.splitModifiers_optionChars, hread]
  rfl

end

/-! ## Regular expressions -/

theorem patternRegex?_literal {source : List Char} (hne : source ≠ []) :
    patternRegex? ('/' :: source ++ ['/']) = some (String.ofList source) := by
  have hlength : 2 < ('/' :: source ++ ['/']).length := by
    have := List.length_pos_iff.2 hne
    simp only [List.length_append, List.length_cons, List.length_nil]
    omega
  have hlast : ('/' :: source ++ ['/']).getLast? = some '/' := List.getLast?_concat
  rw [patternRegex?, regexLiteral?, if_pos ⟨hlength, rfl, hlast⟩]
  simp

theorem patternRegex?_of_not_literal {pattern : List Char}
    (h : ∀ source, source ≠ [] → pattern ≠ '/' :: source ++ ['/']) :
    patternRegex? pattern = if UrlPattern.isAnyUrl (String.ofList pattern) then none
      else some (UrlPattern.toFilter (String.ofList pattern)) := by
  have hliteral : regexLiteral? pattern = none := by
    rw [regexLiteral?, if_neg]
    rintro ⟨hlength, hhead, hlast⟩
    obtain ⟨tail, rfl⟩ := List.head?_eq_some_iff.1 hhead
    have hne : tail ≠ [] := by
      rintro rfl
      simp at hlength
    obtain ⟨source, hsource⟩ := List.getLast?_eq_some_iff.1
      ((List.getLast?_cons_of_ne_nil hne).symm.trans hlast)
    refine h source ?_ (by rw [hsource]; rfl)
    rintro rfl
    rw [hsource] at hlength
    simp at hlength
  rw [patternRegex?, hliteral]

/-! ## What the modifiers of a rule mean -/

namespace Modifier

/-- The domains that a modifier names behind a tilde, or without one. -/
def namedDomains (restricted : Bool) : Modifier → List String
  | .domain domains => (domains.filter (·.restricted == restricted)).map (·.name)
  | _ => []

/-- The content types that a modifier names behind a tilde, or without one.  In an exception
`document` is about the rule as a whole unless it is behind a tilde. -/
def namedTypes (isException : Bool) : Bool → Modifier → List ContentType
  | negated, .contentType negated' type => if negated' = negated then [type] else []
  | false, .document false => if isException then [] else [.document]
  | true, .document true => [.document]
  | _, _ => []

section
variable (modifiers : List Modifier)

theorem permittedNames_listedDomains :
    permittedNames (listedDomains modifiers) = modifiers.flatMap (namedDomains false) := by
  have hnames : ∀ m : Modifier, permittedNames m.domains = m.namedDomains false := by
    intro m
    cases m with
    | domain ds =>
      refine congrArg (List.map _) (List.filter_congr fun d _ => ?_)
      cases d.restricted <;> rfl
    | party | matchCase | document | replace | contentType => rfl
  rw [permittedNames, listedDomains, List.filter_flatMap, List.map_flatMap]
  exact congrArg (modifiers.flatMap ·) (funext hnames)

theorem restrictedNames_listedDomains :
    restrictedNames (listedDomains modifiers) = modifiers.flatMap (namedDomains true) := by
  have hnames : ∀ m : Modifier, restrictedNames m.domains = m.namedDomains true := by
    intro m
    cases m with
    | domain ds =>
      refine congrArg (List.map _) (List.filter_congr fun d _ => ?_)
      cases d.restricted <;> rfl
    | party | matchCase | document | replace | contentType => rfl
  rw [restrictedNames, listedDomains, List.filter_flatMap, List.map_flatMap]
  exact congrArg (modifiers.flatMap ·) (funext hnames)

theorem filterMap_permittedType? (isException : Bool) :
    modifiers.filterMap (permittedType? isException) =
      modifiers.flatMap (namedTypes isException false) := by
  rw [List.filterMap_eq_flatMap_toList]
  refine congrArg (modifiers.flatMap ·) (funext fun m => ?_)
  cases m with
  | contentType negated => cases negated <;> rfl
  | document negated => cases negated <;> cases isException <;> rfl
  | domain | party | matchCase | replace => rfl

theorem filterMap_restrictedType? (isException : Bool) :
    modifiers.filterMap restrictedType? = modifiers.flatMap (namedTypes isException true) := by
  rw [List.filterMap_eq_flatMap_toList]
  refine congrArg (modifiers.flatMap ·) (funext fun m => ?_)
  cases m with
  | contentType negated => cases negated <;> rfl
  | document negated => cases negated <;> rfl
  | domain | party | matchCase | replace => rfl

end

/-- A property that can be turned on and off is on exactly if a modifier turns it on and none behind
that is about it. -/
theorem lastSetting_eq_true_iff {setting? : Modifier → Option Bool} {turn : Bool → Modifier}
    (h : ∀ m on, setting? m = some on ↔ m = turn on) {modifiers : List Modifier} :
    lastSetting setting? modifiers = true ↔ ∃ before after,
      modifiers = before ++ turn true :: after ∧ ∀ on, turn on ∉ after := by
  have hlast : lastSetting setting? modifiers = true ↔
      modifiers.reverse.findSome? setting? = some true := by
    rw [lastSetting, List.getLast?_filterMap]
    cases modifiers.reverse.findSome? setting? <;> simp
  have hnone : ∀ after : List Modifier, (∀ m ∈ after, setting? m = none) ↔
      ∀ on, turn on ∉ after := by
    intro after
    constructor
    · intro hall on hmem
      have hon := (h (turn on) on).2 rfl
      rw [hall _ hmem] at hon
      cases hon
    · intro hall m hm
      cases hset : setting? m with
      | none => rfl
      | some on => exact absurd ((h m on).1 hset ▸ hm) (hall on)
  rw [hlast, List.findSome?_eq_some_iff]
  constructor
  · rintro ⟨after, m, before, heq, hm, hafter⟩
    obtain rfl := (h m true).1 hm
    refine ⟨before.reverse, after.reverse, ?_, fun on hmem => ?_⟩
    · rw [List.reverse_eq_append_iff.1 heq, List.reverse_cons, List.append_assoc,
        List.singleton_append]
    · exact (hnone after).1 hafter on (List.mem_reverse.1 hmem)
  · rintro ⟨before, after, rfl, hafter⟩
    refine ⟨after.reverse, turn true, before.reverse, ?_, (h _ _).2 rfl, fun m hm => ?_⟩
    · rw [List.reverse_append, List.reverse_cons, List.append_assoc, List.singleton_append]
    · exact (hnone after).2 hafter m (List.mem_reverse.1 hm)

theorem thirdParty?_eq_some_iff (m : Modifier) (third : Bool) :
    m.thirdParty? = some third ↔ m = .party third := by
  cases m <;> simp [thirdParty?]

theorem matchCase?_eq_some_iff (m : Modifier) (on : Bool) :
    m.matchCase? = some on ↔ m = .matchCase on := by
  cases m <;> simp [matchCase?]

end Modifier

/-- A rule with a pattern and modifiers is what they mean. -/
structure IsNetworkRule (isException : Bool) (pattern : List Char) (modifiers : List Modifier)
    (rule : Rule) (network : NetworkRule) : Prop where
  body_eq : rule.body = .network network
  isException_eq : rule.isException = isException
  pattern_eq : network.pattern = String.ofList pattern
  /-- Between slashes stands a regular expression. -/
  regex_of_literal : ∀ source, source ≠ [] → pattern = '/' :: source ++ ['/'] →
    network.regex = some (String.ofList source)
  /-- Any other pattern is made into one, unless it is a pattern of any URL. -/
  regex_of_pattern : (∀ source, source ≠ [] → pattern ≠ '/' :: source ++ ['/']) →
    network.regex = if UrlPattern.isAnyUrl (String.ofList pattern) then none
      else some (UrlPattern.toFilter (String.ofList pattern))
  permittedDomains_eq : rule.permittedDomains = modifiers.flatMap (Modifier.namedDomains false)
  restrictedDomains_eq : rule.restrictedDomains = modifiers.flatMap (Modifier.namedDomains true)
  permittedTypes_eq :
    network.permittedTypes = modifiers.flatMap (Modifier.namedTypes isException false)
  restrictedTypes_eq :
    network.restrictedTypes = modifiers.flatMap (Modifier.namedTypes isException true)
  checksParty_iff : network.checksParty = true ↔ ∃ third, .party third ∈ modifiers
  isThirdParty_iff : network.isThirdParty = true ↔ ∃ before after,
    modifiers = before ++ .party true :: after ∧ ∀ third, .party third ∉ after
  matchesCase_iff : network.matchesCase = true ↔ ∃ before after,
    modifiers = before ++ .matchCase true :: after ∧ ∀ on, .matchCase on ∉ after
  isReplace_iff : network.isReplace = true ↔ .replace ∈ modifiers
  isDocumentException_iff :
    network.isDocumentException = true ↔ isException = true ∧ .document false ∈ modifiers

theorem isNetworkRule_toNetworkRule (text : String) (isException : Bool) (pattern : List Char)
    (modifiers : List Modifier) :
    let network := Modifier.toNetworkRule isException (String.ofList pattern)
      (patternRegex? pattern) modifiers
    IsNetworkRule isException pattern modifiers
      { text := text
        permittedDomains := permittedNames (Modifier.listedDomains modifiers)
        restrictedDomains := restrictedNames (Modifier.listedDomains modifiers)
        isException := isException
        body := .network network }
      network where
  body_eq := rfl
  isException_eq := rfl
  pattern_eq := rfl
  regex_of_literal := by
    rintro source hne rfl
    exact patternRegex?_literal hne
  regex_of_pattern := patternRegex?_of_not_literal
  permittedDomains_eq := Modifier.permittedNames_listedDomains modifiers
  restrictedDomains_eq := Modifier.restrictedNames_listedDomains modifiers
  permittedTypes_eq := Modifier.filterMap_permittedType? modifiers isException
  restrictedTypes_eq := Modifier.filterMap_restrictedType? modifiers isException
  checksParty_iff := by
    refine List.any_eq_true.trans ⟨?_, ?_⟩
    · rintro ⟨m, hm, hset⟩
      obtain ⟨third, hthird⟩ := Option.isSome_iff_exists.1 hset
      exact ⟨third, (Modifier.thirdParty?_eq_some_iff m third).1 hthird ▸ hm⟩
    · rintro ⟨third, hm⟩
      exact ⟨_, hm, rfl⟩
  isThirdParty_iff := Modifier.lastSetting_eq_true_iff Modifier.thirdParty?_eq_some_iff
  matchesCase_iff := Modifier.lastSetting_eq_true_iff Modifier.matchCase?_eq_some_iff
  isReplace_iff := List.contains_iff_mem
  isDocumentException_iff := by
    rw [Modifier.toNetworkRule, Bool.and_eq_true, List.contains_iff_mem]

/-- **Reading a network rule undoes writing it**: the pattern is the one that was written, and every
property of the rule is what the modifiers mean that were written. -/
theorem ofText?_networkChars {isException : Bool} {pattern : List Char}
    (hpattern : IsWrittenPattern pattern) {options : List (List Char)} {modifiers : List Modifier}
    (hspells : List.Forall₂ Modifier.Spells options modifiers)
    (hplain : ∀ s ∈ options, Modifier.IsPlainOption s)
    (hne : networkChars isException pattern options ≠ []) :
    let text := String.ofList (networkChars isException pattern options)
    ∃ rule network, Rule.ofText? text = .ok (some rule) ∧ rule.text = text ∧
      IsNetworkRule isException pattern modifiers rule network := by
  have hread := Modifier.readList_of_spells hspells hplain
  exact ⟨_, _, ofText?_eq_of_written hpattern isException hplain hne hread, rfl,
    isNetworkRule_toNetworkRule _ isException pattern modifiers⟩

/-- An exception with a regular expression that has a slash and a dollar sign of its own. -/
theorem ofText?_networkChars_of_regex :
    let pattern := "/a\\/$b/".toList
    let options := ["~1P".toList, "domain=A.com|~b.org".toList, "replace=/x/y/".toList,
      "~css".toList, "Document".toList]
    let modifiers : List Modifier := [.party true, .domain [⟨false, "a.com"⟩, ⟨true, "b.org"⟩],
      .replace, .contentType true .stylesheet, .document false]
    IsWrittenPattern pattern ∧ List.Forall₂ Modifier.Spells options modifiers ∧
    (∀ s ∈ options, Modifier.IsPlainOption s) ∧ networkChars true pattern options ≠ [] ∧
    let text := "@@/a\\/$b/$~1P,domain=A.com|~b.org,replace=/x/y/,~css,Document"
    ∃ rule network, Rule.ofText? text = .ok (some rule) ∧ rule.text = text ∧
      IsNetworkRule true pattern modifiers rule network := by
  intro pattern options modifiers
  have hbody : IsRegexBody "a\\/$b".toList :=
    (isRegexBody_cons_iff (by decide)).2 ⟨isRegexBody_escape_iff.2 <|
      (isRegexBody_cons_iff (by decide)).2 ⟨(isRegexBody_cons_iff (by decide)).2
        ⟨isRegexBody_nil, by decide⟩, by decide⟩, by decide⟩
  have hpattern : IsWrittenPattern pattern :=
    ⟨by decide, by decide, by decide, by decide, by decide, .regex hbody⟩
  have hdomains : List.Forall₂ ListedDomain.Spells ["A.com".toList, "~b.org".toList]
      [⟨false, "a.com"⟩, ⟨true, "b.org"⟩] := by
    refine .cons (@ListedDomain.Spells.intro false "A.com".toList "a.com" ?_ ?_ ?_) <|
      .cons (@ListedDomain.Spells.intro true "b.org".toList "b.org" ?_ ?_ ?_) .nil <;> decide
  have hparty : Modifier.Spells "~1P".toList (.party true) :=
    @Modifier.Spells.named true ⟨"1p", .party false, some (.party true)⟩
      (by simp [ModifierName.all]) _ rfl "1P".toList (by decide) [] (.inl rfl)
  have hdomain : Modifier.Spells "domain=A.com|~b.org".toList
      (.domain [⟨false, "a.com"⟩, ⟨true, "b.org"⟩]) :=
    @Modifier.Spells.domain "domain".toList (by decide) _ _ hdomains (List.cons_ne_nil _ _)
  have hreplace : Modifier.Spells "replace=/x/y/".toList .replace :=
    @Modifier.Spells.named false ⟨"replace", .replace, none⟩ (by simp [ModifierName.all]) _ rfl
      "replace".toList (by decide) "=/x/y/".toList (.inr rfl)
  have hcss : Modifier.Spells "~css".toList (.contentType true .stylesheet) :=
    @Modifier.Spells.named true (.ofType "css" .stylesheet) (by simp [ModifierName.all]) _ rfl
      "css".toList (by decide) [] (.inl rfl)
  have hdocument : Modifier.Spells "Document".toList (.document false) :=
    @Modifier.Spells.named false ⟨"document", .document false, some (.document true)⟩
      (by simp [ModifierName.all]) _ rfl "Document".toList (by decide) [] (.inl rfl)
  have hspells : List.Forall₂ Modifier.Spells options modifiers :=
    .cons hparty <| .cons hdomain <| .cons hreplace <| .cons hcss <| .cons hdocument .nil
  have hplain : ∀ s ∈ options, Modifier.IsPlainOption s := by
    decide
  have hne : networkChars true pattern options ≠ [] := List.cons_ne_nil _ _
  have htext : String.ofList (networkChars true pattern options) =
      "@@/a\\/$b/$~1P,domain=A.com|~b.org,replace=/x/y/,~css,Document" := by
    decide +kernel
  have hrule := ofText?_networkChars hpattern hspells hplain hne
  rw [htext] at hrule
  exact ⟨hpattern, hspells, hplain, hne, hrule⟩

end ContentBlocker
