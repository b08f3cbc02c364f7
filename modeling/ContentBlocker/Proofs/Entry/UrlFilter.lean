import ContentBlocker.Proofs.Entry.Compile
import ContentBlocker.Proofs.Rule.Reading
import ContentBlocker.Proofs.UrlPattern.Filter

/-!
# Url-filters of rules

The url-filter of a network rule is a regular expression of the rule that has been checked, what is
written for its pattern, or one of three fixed ones.  In each case it is not empty and belongs to
the url-filter language (`NetworkRule.urlFilter_valid`).

A rule is refused for its regular expression only where there is no such filter
(`Rule.urlFilter_eq_error_of_compile`), and if its pattern is no regular expression of its own, only
for a character that is not ASCII (`refused_only_for_nonAscii`).

Two rules with such patterns have the same url-filter only if they have the same pattern, or if both
are about any URL (`url_filter_tells_pattern`).
-/

set_option autoImplicit false
namespace ContentBlocker

/-! ## Checked filters -/

theorem checkedFilter_eq_ok_iff {source filter : String} :
    checkedFilter source = .ok filter ↔ Regex.check source = none ∧ filter = source := by
  rw [checkedFilter]
  cases Regex.check source with
  | none => exact ⟨fun h => ⟨rfl, (Except.ok.inj h).symm⟩, fun ⟨_, h⟩ => by rw [h]⟩
  | some fault => exact ⟨fun h => (nomatch h), fun ⟨h, _⟩ => (nomatch h)⟩

theorem checkedFilter_eq_error_iff {source : String} {rejection : Rejection} :
    checkedFilter source = .error rejection ↔
      ∃ fault, Regex.check source = some fault ∧
        rejection = .unsupportedRegex fault source := by
  rw [checkedFilter]
  cases Regex.check source with
  | none => exact ⟨fun h => (nomatch h), fun ⟨_, h, _⟩ => (nomatch h)⟩
  | some fault =>
    constructor
    · exact fun h => ⟨fault, rfl, (Except.error.inj h).symm⟩
    · rintro ⟨_, h, rfl⟩
      rw [Option.some.inj h]

/-! ## The filter of a rule -/

theorem UrlPattern.toFilter_ne_empty {pattern : String} (h : isAnyUrl pattern = false) :
    toFilter pattern ≠ "" := by
  intro hempty
  rw [show "" = toFilter "" from rfl] at hempty
  rw [toFilter_injective hempty] at h
  cases h

theorem check_anyUrlFilter : Regex.check anyUrlFilter = none :=
  UrlPattern.check_toFilter "*"

theorem check_anyWebSocketFilter : Regex.check anyWebSocketFilter = none := by
  decide +kernel

theorem check_webUrlFilter : Regex.check webUrlFilter = none := by
  decide +kernel

namespace NetworkRule

variable {rule : NetworkRule}

/-- The regular expression that counts for a rule is not empty. -/
theorem ne_empty_of_filter {source : String}
    (h : rule.regex.filter (!·.isEmpty) = some source) : source ≠ "" := by
  rintro rfl
  obtain ⟨-, hne⟩ := Option.filter_eq_some_iff.1 h
  cases hne

/-- **The url-filter of a rule is not empty and in the url-filter language.** -/
theorem urlFilter_valid {filter : String} (h : rule.urlFilter = .ok filter) :
    filter ≠ "" ∧ Regex.check filter = none := by
  rw [urlFilter] at h
  split at h
  · rename_i source hsource
    obtain ⟨hcheck, rfl⟩ := checkedFilter_eq_ok_iff.1 h
    exact ⟨ne_empty_of_filter hsource, hcheck⟩
  · split at h
    · obtain rfl := Except.ok.inj h
      split
      · exact ⟨by decide, check_anyWebSocketFilter⟩
      · exact ⟨by decide, check_anyUrlFilter⟩
    · rename_i hany
      split at h
      · obtain rfl := Except.ok.inj h
        exact ⟨by decide, check_webUrlFilter⟩
      · obtain ⟨hcheck, rfl⟩ := checkedFilter_eq_ok_iff.1 h
        exact ⟨UrlPattern.toFilter_ne_empty (Bool.eq_false_iff.2 hany), hcheck⟩

/-- A rule is refused for its regular expression or for what is written for its pattern. -/
theorem exists_of_urlFilter_eq_error {rejection : Rejection}
    (h : rule.urlFilter = .error rejection) :
    ∃ fault source, Regex.check source = some fault ∧
      rejection = .unsupportedRegex fault source ∧
      (rule.regex = some source ∨ source = UrlPattern.toFilter rule.pattern) := by
  rw [urlFilter] at h
  split at h
  · rename_i source hsource
    obtain ⟨fault, hfault, rfl⟩ := checkedFilter_eq_error_iff.1 h
    exact ⟨fault, source, hfault, rfl, .inl (Option.filter_eq_some_iff.1 hsource).1⟩
  · split at h
    · cases h
    · split at h
      · cases h
      · obtain ⟨fault, hfault, rfl⟩ := checkedFilter_eq_error_iff.1 h
        exact ⟨fault, _, hfault, rfl, .inr rfl⟩

end NetworkRule

/-! ## Rejections -/

theorem reason_of_resourceTypes {permitted restricted : List ContentType} {isReplace : Bool}
    {rejection : Rejection} (h : resourceTypes permitted restricted isReplace = .error rejection) :
    rejection.reason = .unsupportedContentType ∨ rejection.reason = .replaceRule := by
  rw [resourceTypes] at h
  split at h
  · obtain rfl := Except.error.inj h
    exact .inl rfl
  · split at h
    · obtain rfl := Except.error.inj h
      exact .inr rfl
    · dsimp only at h
      split at h
      · cases h
      · split at h
        · obtain rfl := Except.error.inj h
          exact .inl rfl
        · cases h

theorem Rule.reason_of_action {rule : Rule} {advanced : Bool} {rejection : Rejection}
    (h : rule.action advanced = .error rejection) :
    rejection.reason = .unsafeCss ∨ rejection.reason = .advancedBlockingDisabled := by
  rw [Rule.action] at h
  split at h
  · cases h
  · rw [hideAction] at h
    split at h
    · cases h
    · obtain rfl := Except.error.inj h
      exact .inl rfl
  iterate 2
    split at h
    · cases h
    · obtain rfl := Except.error.inj h
      exact .inr rfl

/-- The reasons for which a rule can have no trigger. -/
def triggerReasons : List RejectReason :=
  [.unsupportedRegex, .conflictingDomains, .unsupportedContentType, .replaceRule]

theorem NetworkRule.reason_of_trigger {rule : NetworkRule} {permitted restricted : List String}
    {rejection : Rejection} (h : rule.trigger permitted restricted = .error rejection) :
    rejection.reason ∈ triggerReasons := by
  rw [trigger_eq] at h
  rcases bind_eq_error_iff.1 h with h | ⟨filter, -, h⟩
  · obtain ⟨fault, source, -, rfl, -⟩ := exists_of_urlFilter_eq_error h
    exact List.mem_cons_self
  · split at h
    · obtain rfl := Except.error.inj h
      decide
    · rcases bind_eq_error_iff.1 h with h | ⟨types, -, h⟩
      · rcases reason_of_resourceTypes h with hreason | hreason
        · rw [hreason]
          decide
        · rw [hreason]
          decide
      · cases h

theorem Rule.reason_of_trigger {rule : Rule} {rejection : Rejection}
    (h : rule.trigger = .error rejection) : rejection.reason ∈ triggerReasons := by
  rw [trigger] at h
  split at h
  · exact NetworkRule.reason_of_trigger h
  iterate 3
    rw [cosmeticTrigger] at h
    split at h
    · obtain rfl := Except.error.inj h
      decide
    · cases h

/-- Of what a trigger needs, only the url-filter is a regular expression. -/
theorem NetworkRule.urlFilter_eq_error_of_trigger {rule : NetworkRule}
    {permitted restricted : List String} {rejection : Rejection}
    (h : rule.trigger permitted restricted = .error rejection)
    (hreason : rejection.reason = .unsupportedRegex) : rule.urlFilter = .error rejection := by
  rw [trigger_eq] at h
  rcases bind_eq_error_iff.1 h with h | ⟨filter, -, h⟩
  · exact h
  · split at h
    · obtain rfl := Except.error.inj h
      cases hreason
    · rcases bind_eq_error_iff.1 h with h | ⟨types, -, h⟩
      · rcases reason_of_resourceTypes h with h | h
        · cases hreason.symm.trans h
        · cases hreason.symm.trans h
      · cases h

/-- **A rule is refused for a regular expression only if it has no url-filter.** -/
theorem Rule.urlFilter_eq_error_of_compile {rule : Rule} {network : NetworkRule} {advanced : Bool}
    {rejection : Rejection} (hbody : rule.body = .network network)
    (h : rule.compile advanced = .error rejection)
    (hreason : rejection.reason = .unsupportedRegex) : network.urlFilter = .error rejection := by
  rw [compile_eq] at h
  split at h
  · obtain rfl := Except.error.inj h
    cases hreason
  · split at h
    · obtain rfl := Except.error.inj h
      cases hreason
    · rcases bind_eq_error_iff.1 h with h | ⟨trigger, -, h⟩
      · rw [Rule.trigger, hbody] at h
        exact NetworkRule.urlFilter_eq_error_of_trigger h hreason
      · rcases bind_eq_error_iff.1 h with h | ⟨action, -, h⟩
        · rcases reason_of_action h with h | h
          · cases hreason.symm.trans h
          · cases hreason.symm.trans h
        · split at h
          · obtain rfl := Except.error.inj h
            cases hreason
          · cases h

/-! ## Patterns that are no regular expressions -/

/-- What is wrong with what is written for a pattern is that the pattern is not ASCII. -/
theorem UrlPattern.check_toFilter_eq_some_iff {pattern : String} {fault : Regex.Fault} :
    Regex.check (toFilter pattern) = some fault ↔
      fault = .nonAscii ∧ ∃ c ∈ pattern.toList, 0x80 ≤ c.toNat := by
  rw [check_toFilter, ← Regex.isAscii_eq_false_iff]
  cases Regex.isAscii pattern.toList with
  | true => exact ⟨fun h => (nomatch h), fun h => (nomatch h.2)⟩
  | false => exact ⟨fun h => ⟨(Option.some.inj h).symm, rfl⟩, fun h => congrArg some h.1.symm⟩

theorem UrlPattern.check_toFilter_eq_none_iff {pattern : String} :
    Regex.check (toFilter pattern) = none ↔ ∀ c ∈ pattern.toList, c.toNat < 0x80 := by
  constructor
  · intro h c hc
    refine Nat.not_le.1 fun hlarge => ?_
    rw [check_toFilter_eq_some_iff.2 ⟨rfl, c, hc, hlarge⟩] at h
    cases h
  · intro h
    refine Option.eq_none_iff_forall_not_mem.2 fun fault hfault => ?_
    obtain ⟨-, c, hc, hlarge⟩ := check_toFilter_eq_some_iff.1 hfault
    exact absurd (h c hc) (Nat.not_lt.2 hlarge)

/-- The regular expression of a pattern that is none itself is the one written for it. -/
theorem eq_toFilter_of_patternRegex? {pattern : List Char} {source : String}
    (hplain : regexLiteral? pattern = none) (h : patternRegex? pattern = some source) :
    source = UrlPattern.toFilter (String.ofList pattern) := by
  rw [patternRegex?, hplain] at h
  exact (Option.some.inj (Option.ite_none_left_eq_some.1 h).2).symm

/-- **A pattern that is no regular expression is refused only for what is not ASCII.**  What is
written for a pattern belongs to the url-filter language exactly if the pattern is ASCII, and
otherwise the fault is that it is not.  So a rule with such a pattern that is refused for its
regular expression has a character that is not ASCII, and is told so. -/
theorem refused_only_for_nonAscii :
    (∀ pattern : String,
      (Regex.check (UrlPattern.toFilter pattern) = none ↔ ∀ c ∈ pattern.toList, c.toNat < 0x80) ∧
      ∀ fault, Regex.check (UrlPattern.toFilter pattern) = some fault → fault.name = "non-ascii") ∧
    ∀ (line : String) (rule : Rule) (network : NetworkRule) (advanced : Bool)
      (rejection : Rejection), Rule.ofText? line = .ok (some rule) →
      rule.body = .network network → regexLiteral? network.pattern.toList = none →
      rule.compile advanced = .error rejection → rejection.reason = .unsupportedRegex →
      rejection = .unsupportedRegex .nonAscii (UrlPattern.toFilter network.pattern) ∧
        ∃ c ∈ network.pattern.toList, 0x80 ≤ c.toNat := by
  constructor
  · intro pattern
    refine ⟨UrlPattern.check_toFilter_eq_none_iff, fun fault hfault => ?_⟩
    rw [(UrlPattern.check_toFilter_eq_some_iff.1 hfault).1]
    rfl
  · intro line rule network advanced rejection hread hbody hplain hcompile hreason
    obtain ⟨fault, source, hfault, rfl, hsource⟩ := NetworkRule.exists_of_urlFilter_eq_error
      (Rule.urlFilter_eq_error_of_compile hbody hcompile hreason)
    have hwritten : source = UrlPattern.toFilter network.pattern := by
      rcases hsource with hregex | hwritten
      · rw [Rule.regex_of_ofText? hread hbody] at hregex
        rw [eq_toFilter_of_patternRegex? hplain hregex, String.ofList_toList]
      · exact hwritten
    obtain ⟨rfl, hlarge⟩ := UrlPattern.check_toFilter_eq_some_iff.1 (hwritten ▸ hfault)
    exact ⟨by rw [hwritten], hlarge⟩

/-- A rule for the scripts of a host with an umlaut. -/
def umlautRule : Rule :=
  Rule.ofModifiers "bär.example^$script".toList [.contentType false .script]

theorem refused_for_umlaut :
    Rule.ofText? "bär.example^$script" = .ok (some umlautRule) ∧
      umlautRule.compile false =
        .error (.unsupportedRegex .nonAscii (UrlPattern.toFilter "bär.example^")) ∧
      ∃ c ∈ "bär.example^".toList, 0x80 ≤ c.toNat := by
  have hread : Rule.ofText? "bär.example^$script" = .ok (some umlautRule) := by decide +kernel
  have hcompile : umlautRule.compile false =
      .error (.unsupportedRegex .nonAscii (UrlPattern.toFilter "bär.example^")) := by
    decide +kernel
  obtain ⟨-, hlarge⟩ := refused_only_for_nonAscii.2 _ _ _ false _ hread rfl (by decide) hcompile rfl
  exact ⟨hread, hcompile, hlarge⟩

/-! ## Patterns with the same url-filter -/

namespace UrlPattern

open Regex (Node)

/-- The part of the url-filter of any web socket that no pattern is written with. -/
def optionalSecure : Node :=
  .repetition ⟨0, some 1, false, false⟩ "s?".toList (.atom (.char 0x73))

theorem optionalSecure_not_mem_parts (p : UrlPattern) : optionalSecure ∉ p.parts := by
  intro hmem
  rw [parts, List.mem_append, List.mem_append] at hmem
  rcases hmem with (hstart | hbody) | hstop
  · cases hanchor : p.start with
    | anywhere | url | host =>
      rw [hanchor] at hstart
      revert hstart
      decide
  · obtain ⟨c, -, hc⟩ := List.mem_map.1 hbody
    rw [charPart] at hc
    split at hc
    · cases hc
    · split at hc <;> cases hc
  · split at hstop
    · cases List.mem_singleton.1 hstop
    · cases hstop

/-- The url-filter of any web socket is not written for any pattern. -/
theorem toFilter_ne_anyWebSocketFilter (pattern : String) :
    toFilter pattern ≠ anyWebSocketFilter := by
  intro heq
  have hparse : Regex.parse? anyWebSocketFilter.toList =
      some (.ofParts [.anchor .start, .atom (.char 0x77), .atom (.char 0x73), optionalSecure,
        .atom (.char 0x3a), .atom (.char 0x2f), .atom (.char 0x2f)]) := by
    decide +kernel
  rw [← heq, toFilter, String.toList_ofList, parse?_filterChars] at hparse
  refine optionalSecure_not_mem_parts (ofChars pattern.toList) ?_
  rw [Node.ofParts_injective (Option.some.inj hparse)]
  simp

end UrlPattern

/-- The url-filter of a rule that has been read with a pattern that is no regular expression. -/
theorem NetworkRule.urlFilter_of_plain {line : String} {rule : Rule} {network : NetworkRule}
    (hread : Rule.ofText? line = .ok (some rule)) (hbody : rule.body = .network network)
    (hplain : regexLiteral? network.pattern.toList = none) {filter : String}
    (h : network.urlFilter = .ok filter) :
    filter = UrlPattern.toFilter network.pattern ∧ UrlPattern.isAnyUrl network.pattern = false ∨
      (filter = anyUrlFilter ∨ filter = anyWebSocketFilter) ∧
        UrlPattern.isAnyUrl network.pattern = true := by
  have hregex := Rule.regex_of_ofText? hread hbody
  rw [patternRegex?, hplain] at hregex
  dsimp only at hregex
  rw [String.ofList_toList] at hregex
  cases hany : UrlPattern.isAnyUrl network.pattern with
  | true =>
    rw [if_pos hany] at hregex
    rw [urlFilter, hregex, Option.filter_none] at h
    dsimp only at h
    rw [if_pos hany] at h
    obtain rfl := Except.ok.inj h
    refine .inr ⟨?_, rfl⟩
    split
    · exact .inr rfl
    · exact .inl rfl
  | false =>
    rw [if_neg (by simp [hany])] at hregex
    have hne : (UrlPattern.toFilter network.pattern).isEmpty = false := by
      simpa using UrlPattern.toFilter_ne_empty hany
    rw [urlFilter, hregex, Option.filter_some_pos (by rw [hne]; rfl)] at h
    exact .inl ⟨(checkedFilter_eq_ok_iff.1 h).2, rfl⟩

/-- **Different patterns have different url-filters.**  No two patterns are written as the same
regular expression.  So of two rules that have been read, with patterns that are no regular
expressions, the url-filters are the same only if the patterns are, or if both are about any URL, for
which nothing is written. -/
theorem url_filter_tells_pattern :
    (∀ pattern pattern' : String,
      UrlPattern.toFilter pattern = UrlPattern.toFilter pattern' → pattern = pattern') ∧
    ∀ (line line' : String) (rule rule' : Rule) (network network' : NetworkRule) (filter : String),
      Rule.ofText? line = .ok (some rule) → rule.body = .network network →
      Rule.ofText? line' = .ok (some rule') → rule'.body = .network network' →
      regexLiteral? network.pattern.toList = none → regexLiteral? network'.pattern.toList = none →
      network.urlFilter = .ok filter → network'.urlFilter = .ok filter →
      network.pattern = network'.pattern ∨
        UrlPattern.isAnyUrl network.pattern = true ∧
          UrlPattern.isAnyUrl network'.pattern = true := by
  refine ⟨fun _ _ h => UrlPattern.toFilter_injective h, ?_⟩
  intro line line' rule rule' network network' filter hread hbody hread' hbody' hplain hplain' h h'
  -- what is written for a pattern of any URL is written for no other one
  have hapart (pattern : String) (hany : UrlPattern.isAnyUrl pattern = false) :
      UrlPattern.toFilter pattern ≠ anyUrlFilter ∧
        UrlPattern.toFilter pattern ≠ anyWebSocketFilter := by
    refine ⟨fun heq => ?_, UrlPattern.toFilter_ne_anyWebSocketFilter pattern⟩
    obtain rfl : pattern = "*" := UrlPattern.toFilter_injective heq
    cases hany
  rcases NetworkRule.urlFilter_of_plain hread hbody hplain h with ⟨hfilter, hany⟩ | ⟨hfixed, hany⟩
  · rcases NetworkRule.urlFilter_of_plain hread' hbody' hplain' h' with
      ⟨hfilter', -⟩ | ⟨hfixed', -⟩
    · exact .inl (UrlPattern.toFilter_injective (hfilter.symm.trans hfilter'))
    · rw [hfilter] at hfixed'
      exact absurd hfixed' (not_or.2 (hapart _ hany))
  · rcases NetworkRule.urlFilter_of_plain hread' hbody' hplain' h' with
      ⟨hfilter', hany'⟩ | ⟨-, hany'⟩
    · rw [hfilter'] at hfixed
      exact absurd hfixed (not_or.2 (hapart _ hany'))
    · exact .inr ⟨hany, hany'⟩

/-- A rule for the images of some hosts. -/
def adImageRule : Rule :=
  Rule.ofModifiers "|https://ads.*/x$image".toList [.contentType false .image]

/-- An exception to it. -/
def adImageException : Rule :=
  Rule.ofModifiers "@@|https://ads.*/x$image".toList [.contentType false .image]

/-- A rule and an exception to it have the same url-filter, and so the same pattern. -/
theorem url_filter_tells_pattern_of_exception :
    Rule.ofText? "|https://ads.*/x$image" = .ok (some adImageRule) ∧
      Rule.ofText? "@@|https://ads.*/x$image" = .ok (some adImageException) ∧
      ∃ network network' filter, adImageRule.body = .network network ∧
        adImageException.body = .network network' ∧
        filter = "^https:\\/\\/ads\\..*\\/x" ∧
        network.urlFilter = .ok filter ∧ network'.urlFilter = .ok filter ∧
        network.pattern = network'.pattern := by
  have hread : Rule.ofText? "|https://ads.*/x$image" = .ok (some adImageRule) := by
    decide +kernel
  have hread' : Rule.ofText? "@@|https://ads.*/x$image" = .ok (some adImageException) := by
    decide +kernel
  obtain ⟨network, hbody, hplain, hany, hfilter⟩ : ∃ network, adImageRule.body = .network network ∧
      regexLiteral? network.pattern.toList = none ∧ UrlPattern.isAnyUrl network.pattern = false ∧
      network.urlFilter = .ok "^https:\\/\\/ads\\..*\\/x" :=
    ⟨_, rfl, by decide +kernel, by decide +kernel, by decide +kernel⟩
  obtain ⟨network', hbody', hplain', hfilter'⟩ : ∃ network,
      adImageException.body = .network network ∧ regexLiteral? network.pattern.toList = none ∧
      network.urlFilter = .ok "^https:\\/\\/ads\\..*\\/x" :=
    ⟨_, rfl, by decide +kernel, by decide +kernel⟩
  refine ⟨hread, hread', network, network', _, hbody, hbody', rfl, hfilter, hfilter', ?_⟩
  refine (url_filter_tells_pattern.2 _ _ _ _ _ _ _ hread hbody hread' hbody' hplain hplain' hfilter
    hfilter').resolve_right fun h => ?_
  rw [hany] at h
  exact Bool.false_ne_true h.1

end ContentBlocker
