import ContentBlocker.Proofs.Allowlist.RuleEntries
import ContentBlocker.Proofs.Domain.Names
import ContentBlocker.Proofs.Rule.WrittenNetwork
import ContentBlocker.Proofs.UrlPattern.Filter

/-!
# The rule for a site and its entry

The rule that switches the blocker off for a site is put together as text, and an edit of a content
blocker reads it as it would read a line of a filter list.  Here the text is followed all the way:
it is read as the rule it was meant to be (`ofText?_ruleText`), and that has an entry
(`entriesOfText_ruleText`), which is a different one for every site and either kind of rule
(`siteEntry_injective`) and never the one that does nothing (`siteEntry_ne_placeholderEntry`).

A site is named by letters in lower case, digits, hyphens and full stops (`IsSite`), which are not
all names of hosts: a rule for `..` is a rule as well.
-/

set_option autoImplicit false
namespace ContentBlocker

/-! ## Names of sites -/

/-- Whether a character may stand in the name of a site. -/
def isSiteChar (c : Char) : Bool :=
  HostPattern.isLabelChar c || c == '.'

/-- A name of a site. -/
structure IsSite (domain : String) : Prop where
  ne_empty : domain ≠ ""
  isSiteChar : ∀ c ∈ domain.toList, isSiteChar c = true

instance (domain : String) : Decidable (IsSite domain) :=
  decidable_of_iff (domain ≠ "" ∧ domain.toList.all isSiteChar = true)
    ⟨fun h => ⟨h.1, List.all_eq_true.1 h.2⟩,
      fun h => ⟨h.ne_empty, List.all_eq_true.2 h.isSiteChar⟩⟩

theorem isDomainChar_of_isSiteChar {c : Char} (h : isSiteChar c = true) :
    ListedDomain.isDomainChar c = true := by
  rw [isSiteChar, Bool.or_eq_true, beq_iff_eq] at h
  rcases h with h | rfl
  · exact isDomainChar_of_isLabelChar h
  · rfl

namespace IsSite

variable {domain : String} (h : IsSite domain)
include h

theorem toList_ne_nil : domain.toList ≠ [] :=
  fun hnil => h.ne_empty (String.toList_inj.1 hnil)

/-- A name of a site has none of the characters that rules use for something else. -/
theorem not_mem {c : Char} (hc : ContentBlocker.isSiteChar c = false) : c ∉ domain.toList := by
  intro hmem
  rw [h.isSiteChar c hmem] at hc
  cases hc

theorem isDomainName : IsDomainName domain where
  ne_empty := h.ne_empty
  isDomainChar := fun c hc => isDomainChar_of_isSiteChar (h.isSiteChar c hc)

theorem isAscii : Regex.isAscii domain.toList = true := by
  refine List.all_eq_true.2 fun c hc => ?_
  have hnat := toNat_of_isDomainChar (h.isDomainName.isDomainChar c hc)
  simp only [decide_eq_true_eq]
  omega

theorem lowerChars_eq : Text.lowerChars domain.toList = domain.toList :=
  lowerChars_of_isDomainChar h.isDomainName.isDomainChar

theorem noBlanks : Text.NoBlanks domain.toList :=
  fun c hc => isBlank_of_isDomainChar (h.isDomainName.isDomainChar c hc)

/-- A name of a site stands for that site alone. -/
theorem resolve_singleton : Domain.resolve [domain] = [domain] := by
  have hexpand : Domain.expand domain = [domain] := by
    rw [Domain.expand_eq_expandName h.isDomainName, Domain.expandName, if_neg h.toList_ne_nil,
      if_neg, if_neg, String.ofList_toList]
    · intro hsuffix
      have hsub := (List.isSuffixOf_iff_suffix.1 hsuffix).subset
      exact h.not_mem (c := '*') rfl (hsub (by decide))
    · intro heq
      exact h.not_mem (c := '*') rfl (heq ▸ (by decide))
  rw [Domain.resolve, List.flatMap_singleton, hexpand]
  rfl

end IsSite

/-! ## Reading the rule for a site -/

namespace AllowKind

/-- The pattern of the rule for a site. -/
def pattern (kind : AllowKind) (domain : String) : String :=
  match kind with
  | .onSite => "||" ++ domain
  | .offSite => "||*"

/-- The domains on which the rule for a site does not apply. -/
def restrictedDomains (kind : AllowKind) (domain : String) : List String :=
  match kind with
  | .onSite => []
  | .offSite => [domain]

/-- The regular expression of the rule for a site, if its pattern is not one of any URL. -/
def siteRegex? (kind : AllowKind) (domain : String) : Option String :=
  match kind with
  | .onSite => some (UrlPattern.toFilter (kind.pattern domain))
  | .offSite => none

/-- The rule for a site, as it is meant. -/
def siteRule (kind : AllowKind) (domain : String) : Rule where
  text := kind.ruleText domain
  permittedDomains := []
  restrictedDomains := kind.restrictedDomains domain
  isException := true
  body := .network {
    pattern := kind.pattern domain
    regex := kind.siteRegex? domain
    isDocumentException := true }

/-- The modifiers of the rule for a site. -/
def modifiers (kind : AllowKind) (domain : String) : List Modifier :=
  match kind with
  | .onSite => [.document false]
  | .offSite => [.document false, .domain [⟨true, domain⟩]]

/-- The modifiers of the rule for a site as they are written. -/
def options (kind : AllowKind) (domain : String) : List Char :=
  match kind with
  | .onSite => "document".toList
  | .offSite => "document".toList ++ ',' :: ("domain".toList ++ '=' :: '~' :: domain.toList)

theorem toList_ruleText (kind : AllowKind) (domain : String) : (kind.ruleText domain).toList =
    '@' :: '@' :: ((kind.pattern domain).toList ++ '$' :: kind.options domain) := by
  cases kind with
  | onSite =>
    show ("@@||" ++ domain ++ "$document").toList =
      '@' :: '@' :: (("||" ++ domain).toList ++ '$' :: "document".toList)
    rw [String.toList_append, String.toList_append, String.toList_append]
    rfl
  | offSite =>
    show ("@@||*$document,domain=~" ++ domain).toList =
      '@' :: '@' :: ("||*".toList ++ '$' :: ("document".toList ++
        ',' :: ("domain".toList ++ '=' :: '~' :: domain.toList)))
    rw [String.toList_append]
    rfl

theorem toList_pattern (kind : AllowKind) (domain : String) : (kind.pattern domain).toList =
    '|' :: '|' :: match kind with
      | .onSite => domain.toList
      | .offSite => ['*'] := by
  cases kind with
  | onSite =>
    show ("||" ++ domain).toList = '|' :: '|' :: domain.toList
    rw [String.toList_append]
    rfl
  | offSite =>
    show "||*".toList = ['|', '|', '*']
    rfl

/-- The rule for a domain has no character but those of the domain and of the text around it. -/
theorem not_mem_ruleText {domain : String} {c : Char} (hdomain : c ∉ domain.toList)
    (htext : ∀ s ∈ ["@@||", "$document", "@@||*$document,domain=~"], c ∉ s.toList)
    (kind : AllowKind) : c ∉ (kind.ruleText domain).toList := by
  cases kind with
  | onSite =>
    show c ∉ ("@@||" ++ domain ++ "$document").toList
    rw [String.toList_append, String.toList_append, List.mem_append, List.mem_append]
    rintro ((hmem | hmem) | hmem)
    · exact htext "@@||" (by simp) hmem
    · exact hdomain hmem
    · exact htext "$document" (by simp) hmem
  | offSite =>
    show c ∉ ("@@||*$document,domain=~" ++ domain).toList
    rw [String.toList_append, List.mem_append]
    rintro (hmem | hmem)
    · exact htext "@@||*$document,domain=~" (by simp) hmem
    · exact hdomain hmem

/-- The modifiers of the rule for a site, one by one. -/
def writtenOptions (kind : AllowKind) (domain : String) : List (List Char) :=
  match kind with
  | .onSite => ["document".toList]
  | .offSite => ["document".toList, "domain=~".toList ++ domain.toList]

/-- The rule for a site is written as rules are. -/
theorem toList_ruleText_eq (kind : AllowKind) (domain : String) : (kind.ruleText domain).toList =
    networkChars true (kind.pattern domain).toList (kind.writtenOptions domain) := by
  rw [toList_ruleText]
  cases kind with
  | onSite => rfl
  | offSite =>
    rw [writtenOptions, networkChars, optionChars, if_neg (List.cons_ne_nil _ _),
      List.intercalate_cons_of_ne_nil (List.cons_ne_nil _ _), List.intercalate_singleton]
    rfl

section
variable {domain : String} (h : IsSite domain)
include h

theorem spells_writtenOptions (kind : AllowKind) :
    List.Forall₂ Modifier.Spells (kind.writtenOptions domain) (kind.modifiers domain) := by
  have hdocument : Modifier.Spells "document".toList (.document false) :=
    @Modifier.Spells.named false ⟨"document", .document false, some (.document true)⟩
      (by simp [ModifierName.all]) _ rfl "document".toList rfl [] (.inl rfl)
  cases kind with
  | onSite => exact .cons hdocument .nil
  | offSite =>
    have hsite : ListedDomain.Spells ('~' :: domain.toList) ⟨true, domain⟩ :=
      .intro true h.isDomainName h.lowerChars_eq h.noBlanks
    have hdomain := @Modifier.Spells.domain "domain".toList rfl _ _ (.cons hsite .nil)
      (List.cons_ne_nil _ _)
    rw [List.intercalate_singleton] at hdomain
    exact .cons hdocument (.cons hdomain .nil)

theorem isPlainOption_writtenOptions (kind : AllowKind) :
    ∀ s ∈ kind.writtenOptions domain, Modifier.IsPlainOption s := by
  have hdocument : Modifier.IsPlainOption "document".toList := by decide
  cases kind with
  | onSite => exact List.forall_mem_singleton.2 hdocument
  | offSite =>
    have hname : Modifier.IsPlainOption "domain=~".toList := by decide
    refine List.forall_mem_cons.2 ⟨hdocument, List.forall_mem_singleton.2 ⟨fun c hc => ?_, ?_, ?_⟩⟩
    · exact (List.mem_append.1 hc).elim (hname.noBlanks c) (h.noBlanks c)
    · exact fun hmem => (List.mem_append.1 hmem).elim hname.comma_not_mem (h.not_mem rfl)
    · exact fun hmem => (List.mem_append.1 hmem).elim hname.sharp_not_mem (h.not_mem rfl)

theorem isWrittenPattern_pattern (kind : AllowKind) :
    IsWrittenPattern (kind.pattern domain).toList := by
  cases kind with
  | offSite =>
    show IsWrittenPattern "||*".toList
    exact ⟨by decide, by decide, by decide, by decide, by decide, .plain (by decide) (by decide)⟩
  | onSite =>
    have hout {c : Char} (hbar : c ≠ '|') (hc : isSiteChar c = false) :
        c ∉ (pattern .onSite domain).toList := by
      rw [toList_pattern]
      exact List.not_mem_cons_of_ne_of_not_mem hbar
        (List.not_mem_cons_of_ne_of_not_mem hbar (h.not_mem hc))
    refine ⟨fun c hc => ?_, hout (by decide) rfl, ?_, ?_, ?_, .plain ?_ (hout (by decide) rfl)⟩
    · rw [toList_pattern] at hc
      rcases List.mem_cons.1 hc with rfl | hc
      · rfl
      · rcases List.mem_cons.1 hc with rfl | hc
        · rfl
        · exact h.noBlanks c hc
    all_goals
      rw [toList_pattern]
      simp

theorem isAnyUrl_pattern (kind : AllowKind) :
    UrlPattern.isAnyUrl (kind.pattern domain) = decide (kind = .offSite) := by
  cases kind with
  | onSite =>
    refine Bool.eq_false_iff.2 fun hany => ?_
    rw [UrlPattern.isAnyUrl, List.contains_iff_mem] at hany
    have hmem : domain.toList ∈
        (UrlPattern.anyUrlPatterns.filter UrlPattern.isHostAnchored).map (·.toList.drop 2) := by
      refine List.mem_map.2 ⟨_, List.mem_filter.2 ⟨hany, ?_⟩, ?_⟩
      · rw [UrlPattern.isHostAnchored, toList_pattern]
        rfl
      · rw [toList_pattern]
        rfl
    have hstar : domain.toList = ['*'] := List.mem_singleton.1 hmem
    exact h.not_mem (c := '*') rfl (by rw [hstar]; exact List.mem_singleton_self _)
  | offSite => rfl

/-- A pattern that begins with a bar is no regular expression between slashes. -/
theorem patternRegex?_pattern (kind : AllowKind) :
    patternRegex? (kind.pattern domain).toList = (kind.siteRegex? domain) := by
  have hliteral : regexLiteral? (kind.pattern domain).toList = none := by
    rw [toList_pattern, regexLiteral?, if_neg]
    rintro ⟨-, hhead, -⟩
    cases hhead
  rw [patternRegex?, hliteral]
  dsimp only
  rw [String.ofList_toList, isAnyUrl_pattern h]
  cases kind <;> rfl

/-- **The text that is put together for a site is read as the rule that is meant.** -/
theorem ofText?_ruleText (kind : AllowKind) :
    Rule.ofText? (kind.ruleText domain) = .ok (some (kind.siteRule domain)) := by
  have hplain := isPlainOption_writtenOptions h kind
  have hread := ofText?_eq_of_written (isWrittenPattern_pattern h kind) true hplain
    (List.cons_ne_nil _ _) (Modifier.readList_of_spells (spells_writtenOptions h kind) hplain)
  rw [← toList_ruleText_eq, String.ofList_toList, String.ofList_toList,
    patternRegex?_pattern h] at hread
  rw [hread]
  cases kind <;> rfl

end

/-! ## The entry of the rule for a site -/

/-- The entry of the rule for a site.  On a name that cannot be one of a host it is not tied to the
pages of that host. -/
def siteEntry (kind : AllowKind) (domain : String) : Entry where
  trigger :=
    match kind with
    | .onSite => {
        urlFilter := UrlPattern.toFilter (pattern .onSite domain)
        ifDomain := if HostPattern.isHost domain.toList then some [domain] else none }
    | .offSite => { urlFilter := anyUrlFilter, unlessDomain := some [domain] }
  action := { type := .ignorePrevious }

section
variable {domain : String} (h : IsSite domain)
include h

theorem urlFilter_onSite {network : NetworkRule}
    (hregex : network.regex = some (UrlPattern.toFilter (pattern .onSite domain))) :
    network.urlFilter = .ok (UrlPattern.toFilter (pattern .onSite domain)) := by
  have hascii : Regex.isAscii (pattern .onSite domain).toList = true := by
    rw [toList_pattern]
    exact h.isAscii
  have hempty : (UrlPattern.toFilter (pattern .onSite domain)).isEmpty = false := by
    refine Bool.eq_false_iff.2 fun hempty => ?_
    have heq : UrlPattern.toFilter (pattern .onSite domain) = UrlPattern.toFilter "" :=
      String.isEmpty_iff.1 hempty
    have hnil := congrArg String.toList (UrlPattern.toFilter_injective heq)
    rw [toList_pattern] at hnil
    cases hnil
  have hcheck : Regex.check (UrlPattern.toFilter (pattern .onSite domain)) = none := by
    rw [UrlPattern.check_toFilter, if_pos hascii]
  rw [NetworkRule.urlFilter, hregex, Option.filter_some_pos (by rw [hempty]; rfl)]
  dsimp only
  rw [checkedFilter, hcheck]

theorem ofPattern?_onSite : HostPattern.ofPattern? (pattern .onSite domain) =
    if HostPattern.isHost domain.toList then some ⟨domain, ""⟩ else none := by
  have hends (c : Char) (hc : c ∈ domain.toList) : (!HostPattern.endsHost c) = true := by
    cases hend : HostPattern.endsHost c with
    | false => rfl
    | true =>
      simp only [HostPattern.endsHost, Bool.or_eq_true, beq_iff_eq] at hend
      rcases hend with ((((rfl | rfl) | rfl) | rfl) | rfl) | rfl <;> exact absurd hc (h.not_mem rfl)
  have hafter : HostPattern.afterLead? (pattern .onSite domain).toList = some domain.toList := by
    rw [toList_pattern]
    rfl
  have htake : (domain.toList ++ []).takeWhile (!HostPattern.endsHost ·) = domain.toList := by
    rw [List.takeWhile_append_of_pos hends, List.takeWhile_nil, List.append_nil]
  have hdrop : (domain.toList ++ []).dropWhile (!HostPattern.endsHost ·) = [] := by
    rw [List.dropWhile_append_of_pos hends, List.dropWhile_nil]
  rw [List.append_nil] at htake hdrop
  rw [HostPattern.ofPattern?, hafter]
  dsimp only
  rw [htake, hdrop, h.lowerChars_eq, String.ofList_toList]

theorem trigger_siteRule (kind : AllowKind) :
    (kind.siteRule domain).trigger = .ok (kind.siteEntry domain).trigger := by
  cases kind with
  | onSite =>
    show NetworkRule.trigger _ [] [] = _
    rw [NetworkRule.trigger, urlFilter_onSite h rfl, NetworkRule.documentHost?, if_pos rfl,
      ofPattern?_onSite h, siteEntry]
    cases HostPattern.isHost domain.toList with
    | false => rfl
    | true =>
      have hscope : Scope.ofDomains? [domain] [] = some (.only [domain]) := by
        rw [Scope.ofDomains?, h.resolve_singleton]
        exact List.cons_ne_nil _ _
      rw [if_pos rfl, if_pos rfl]
      dsimp only [bind, Except.bind]
      rw [if_pos List.isEmpty_nil, hscope]
      rfl
  | offSite =>
    have hscope : Scope.ofDomains? [] [domain] = some (.except [domain]) := by
      rw [Scope.ofDomains?, h.resolve_singleton]
      · exact List.cons_ne_nil _ _
    have hfilter : NetworkRule.urlFilter { pattern := "||*", isDocumentException := true } =
        .ok anyUrlFilter := rfl
    have hhost : NetworkRule.documentHost? { pattern := "||*", isDocumentException := true } =
        none := rfl
    show NetworkRule.trigger { pattern := "||*", isDocumentException := true } [] [domain] = _
    rw [NetworkRule.trigger, hfilter, hhost]
    dsimp only [bind, Except.bind]
    rw [hscope]
    rfl

theorem compile_siteRule (kind : AllowKind) (advanced : Bool) :
    (kind.siteRule domain).compile advanced = .ok (kind.siteEntry domain) := by
  rw [Rule.compile, trigger_siteRule h]
  rfl

theorem judge_siteRule (kind : AllowKind) :
    (kind.siteRule domain).judge false = .entry .documentException (kind.siteEntry domain) := by
  rw [Rule.judge, compile_siteRule h]
  rfl

/-- **The rule for a site has an entry.** -/
theorem entriesOfText_ruleText (kind : AllowKind) :
    entriesOfText (kind.ruleText domain) = [kind.siteEntry domain] :=
  entriesOfText_of_entry (not_mem_ruleText (h.not_mem rfl) (by decide) kind)
    (ofText?_ruleText h kind) (judge_siteRule h kind)

theorem entryText_ruleText (kind : AllowKind) :
    entryText (kind.ruleText domain) = .ok (kind.siteEntry domain).serialize.toList :=
  entryText_of_entriesOfText (entriesOfText_ruleText h kind)

end

/-! ## Different sites -/

theorem pattern_onSite_injective {domain domain' : String}
    (h : pattern .onSite domain = pattern .onSite domain') : domain = domain' := by
  have hlist := congrArg String.toList h
  rw [toList_pattern, toList_pattern] at hlist
  exact String.toList_inj.1 (List.cons.inj (List.cons.inj hlist).2).2

theorem ruleText_injective {kind : AllowKind} {domain domain' : String}
    (h : kind.ruleText domain = kind.ruleText domain') : domain = domain' := by
  cases kind with
  | onSite =>
    have h : "@@||" ++ domain ++ "$document" = "@@||" ++ domain' ++ "$document" := h
    exact (String.append_right_inj _).1 ((String.append_left_inj _).1 h)
  | offSite =>
    have h : "@@||*$document,domain=~" ++ domain = "@@||*$document,domain=~" ++ domain' := h
    exact (String.append_right_inj _).1 h

/-- **No two rules for sites have the same entry.** -/
theorem siteEntry_injective {kind kind' : AllowKind} {domain domain' : String}
    (h : kind.siteEntry domain = kind'.siteEntry domain') : kind = kind' ∧ domain = domain' := by
  have hunless := congrArg (·.trigger.unlessDomain) h
  cases kind with
  | onSite =>
    cases kind' with
    | onSite =>
      have hfilter := congrArg (·.trigger.urlFilter) h
      exact ⟨rfl, pattern_onSite_injective (UrlPattern.toFilter_injective hfilter)⟩
    | offSite => cases hunless
  | offSite =>
    cases kind' with
    | onSite => cases hunless
    | offSite =>
      injection hunless with hunless
      exact ⟨rfl, List.head_eq_of_cons_eq hunless⟩

theorem siteEntry_ne_placeholderEntry (kind : AllowKind) (domain : String) :
    kind.siteEntry domain ≠ placeholderEntry := by
  intro h
  cases kind with
  | onSite =>
    have hfilter : UrlPattern.toFilter (pattern .onSite domain) = UrlPattern.toFilter "*" :=
      congrArg (·.trigger.urlFilter) h
    have hlist := congrArg String.toList (UrlPattern.toFilter_injective hfilter)
    rw [toList_pattern] at hlist
    cases hlist
  | offSite =>
    have hif := congrArg (·.trigger.ifDomain) h
    cases hif

end AllowKind
end ContentBlocker
