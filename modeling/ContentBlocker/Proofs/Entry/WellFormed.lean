import ContentBlocker.Proofs.Entry.Payload
import ContentBlocker.Proofs.Entry.UrlFilter

/-!
# Entries of rules that have been read are well formed

A content blocker is refused as a whole if one of its entries is not as it should be.  So the entry
of any rule that is read from a filter list has to be (`Entry.WellFormed`), whichever way it was
made: its url-filter belongs to the url-filter language, its scope is one list of domains at most,
its kinds of resources are named once each, and its action carries along what the type of the rule
asks for (`compile_wellFormed`).

The scope of an entry comes from names that a rule lists, or from the host of its pattern where the
rule takes back all that is done on the pages of a host (`NetworkRule.scopeNames`).  Both are names
of domains, from which lists of domains are made (`Scope.wellFormed_of_ofDomains?`).
-/

set_option autoImplicit false
namespace ContentBlocker

/-! ## Scopes -/

/-- A scope names domains as an entry may have them. -/
def Scope.WellFormed : Scope → Prop
  | .everywhere => True
  | .only domains => IsDomainList domains
  | .except domains => IsDomainList domains

theorem Scope.wellFormed_of_ofDomains? {permitted restricted : List String} {scope : Scope}
    (hpermitted : ∀ name ∈ permitted, IsDomainName name)
    (hrestricted : ∀ name ∈ restricted, IsDomainName name)
    (h : ofDomains? permitted restricted = some scope) : scope.WellFormed := by
  rw [ofDomains?.eq_def] at h
  split at h
  · obtain rfl := Option.some.inj h
    trivial
  · rename_i hne
    obtain rfl := Option.some.inj h
    exact Domain.isDomainList_resolve hne hpermitted
  · rename_i hne
    obtain rfl := Option.some.inj h
    exact Domain.isDomainList_resolve hne hrestricted
  · cases h

/-! ## Kinds of resources -/

/-- The kinds of resources of a trigger are listed once each, and there are some. -/
theorem resourceTypes_wellFormed {permitted restricted : List ContentType} {isReplace : Bool}
    {types : List ResourceType}
    (h : resourceTypes permitted restricted isReplace = .ok (some types)) :
    types ≠ [] ∧ types.Nodup := by
  obtain ⟨-, ⟨hnone, -⟩ | ⟨hne, hsome⟩⟩ := resourceTypes_cases h
  · cases hnone
  · obtain rfl := Option.some.inj hsome
    exact ⟨eraseDups_ne_nil fun hnil => hne (List.map_eq_nil_iff.1 hnil),
      nodup_eraseDups _⟩

/-! ## Triggers -/

/-- The trigger of an entry is as the browser accepts it. -/
structure Trigger.WellFormed (trigger : Trigger) : Prop where
  urlFilter_ne_empty : trigger.urlFilter ≠ ""
  check_urlFilter : Regex.check trigger.urlFilter = none
  ifDomain_or_unlessDomain : trigger.ifDomain = none ∨ trigger.unlessDomain = none
  ifDomain : ∀ domains, trigger.ifDomain = some domains → IsDomainList domains
  unlessDomain : ∀ domains, trigger.unlessDomain = some domains → IsDomainList domains
  resourceType : ∀ types, trigger.resourceType = some types → types ≠ [] ∧ types.Nodup

/-- A trigger is well formed if it is made of what is. -/
theorem Trigger.wellFormed_of_scope {trigger : Trigger} {scope : Scope} (hscope : scope.WellFormed)
    (honly : trigger.ifDomain = scope.only?) (hexcept : trigger.unlessDomain = scope.except?)
    (hne : trigger.urlFilter ≠ "") (hcheck : Regex.check trigger.urlFilter = none)
    (htypes : ∀ types, trigger.resourceType = some types → types ≠ [] ∧ types.Nodup) :
    trigger.WellFormed where
  urlFilter_ne_empty := hne
  check_urlFilter := hcheck
  ifDomain_or_unlessDomain := by
    rw [honly, hexcept]
    cases scope with
    | everywhere => exact .inl rfl
    | only domains => exact .inr rfl
    | except domains => exact .inl rfl
  ifDomain := by
    intro domains h
    rw [honly] at h
    cases scope with
    | everywhere => cases h
    | only domains' =>
      obtain rfl := Option.some.inj h
      exact hscope
    | except domains' => cases h
  unlessDomain := by
    intro domains h
    rw [hexcept] at h
    cases scope with
    | everywhere => cases h
    | only domains' => cases h
    | except domains' =>
      obtain rfl := Option.some.inj h
      exact hscope
  resourceType := htypes

theorem wellFormed_of_cosmeticTrigger {permitted restricted : List String} {trigger : Trigger}
    (hpermitted : ∀ name ∈ permitted, IsDomainName name)
    (hrestricted : ∀ name ∈ restricted, IsDomainName name)
    (h : cosmeticTrigger permitted restricted = .ok trigger) : trigger.WellFormed := by
  rw [cosmeticTrigger] at h
  split at h
  · cases h
  · rename_i scope hscope
    obtain rfl := Except.ok.inj h
    refine Trigger.wellFormed_of_scope
      (Scope.wellFormed_of_ofDomains? hpermitted hrestricted hscope) rfl rfl
      (show anyUrlFilter ≠ "" by decide) check_anyUrlFilter fun types htypes => ?_
    cases htypes

namespace NetworkRule

variable {rule : NetworkRule}

theorem isDomainName_of_mem_scopeNames {permitted : List String}
    (h : ∀ name ∈ permitted, IsDomainName name) :
    ∀ name ∈ rule.scopeNames permitted, IsDomainName name := by
  rw [scopeNames]
  split
  · exact h
  · rename_i host path hhost
    split
    · intro name hname
      obtain rfl := List.mem_singleton.1 hname
      rw [documentHost?] at hhost
      exact HostPattern.isDomainName_host (Option.ite_none_right_eq_some.1 hhost).2
    · exact h

theorem pageFilter_valid {filter : String} (h : rule.urlFilter = .ok filter) :
    rule.pageFilter filter ≠ "" ∧ Regex.check (rule.pageFilter filter) = none := by
  rw [pageFilter]
  split
  · exact urlFilter_valid h
  · split
    · exact ⟨by decide, check_anyUrlFilter⟩
    · exact urlFilter_valid h

theorem wellFormed_of_trigger {permitted restricted : List String} {trigger : Trigger}
    (hpermitted : ∀ name ∈ permitted, IsDomainName name)
    (hrestricted : ∀ name ∈ restricted, IsDomainName name)
    (h : rule.trigger permitted restricted = .ok trigger) : trigger.WellFormed := by
  obtain ⟨filter, scope, types, hfilter, hscope, htypes, rfl⟩ := trigger_eq_ok_iff.1 h
  obtain ⟨hne, hcheck⟩ := pageFilter_valid hfilter
  refine Trigger.wellFormed_of_scope (Scope.wellFormed_of_ofDomains?
    (isDomainName_of_mem_scopeNames hpermitted) hrestricted hscope) rfl rfl hne hcheck ?_
  rintro types' rfl
  exact resourceTypes_wellFormed htypes

end NetworkRule

/-! ## Entries -/

/-- An entry is as the browser accepts it, and as the type of its rule says. -/
structure Entry.WellFormed (entry : Entry) (rule : Rule) : Prop where
  trigger : entry.trigger.WellFormed
  action : entry.action.WellFormed rule

/-- **The entry of a rule that has been read is well formed.** -/
theorem compile_wellFormed {line : String} {rule : Rule} {advanced : Bool} {entry : Entry}
    (hread : Rule.ofText? line = .ok (some rule)) (hcompile : rule.compile advanced = .ok entry) :
    entry.WellFormed rule := by
  obtain ⟨-, -, htrigger, haction, -⟩ := Rule.compile_eq_ok_iff.1 hcompile
  have hnames := Rule.isDomainName_of_ofText? hread
  have hpermitted : ∀ name ∈ rule.permittedDomains, IsDomainName name :=
    fun name hname => hnames name (List.mem_append_left _ hname)
  have hrestricted : ∀ name ∈ rule.restrictedDomains, IsDomainName name :=
    fun name hname => hnames name (List.mem_append_right _ hname)
  refine ⟨?_, Rule.wellFormed_of_action haction⟩
  rw [Rule.trigger] at htrigger
  split at htrigger
  · exact NetworkRule.wellFormed_of_trigger hpermitted hrestricted htrigger
  iterate 3
    exact wellFormed_of_cosmeticTrigger hpermitted hrestricted htrigger

/-- A line with capital letters in a host and in a domain. -/
def imageLine : String :=
  "||Example.org^$image,domain=Shop.example|news.example"

/-- The rule of the line: it is about the images of a host on two sites. -/
def imageRule : Rule :=
  Rule.ofModifiers imageLine.toList
    [.contentType false .image, .domain [⟨false, "shop.example"⟩, ⟨false, "news.example"⟩]]

/-- The entry of the rule. -/
def imageEntry : Entry where
  trigger :=
    { urlFilter := UrlPattern.toFilter "||Example.org^"
      ifDomain := some ["shop.example", "news.example"]
      resourceType := some [.image] }
  action := { type := .block }

theorem compile_wellFormed_of_imageRule :
    Rule.ofText? imageLine = .ok (some imageRule) ∧ imageRule.compile false = .ok imageEntry ∧
      imageEntry.WellFormed imageRule := by
  have hread : Rule.ofText? imageLine = .ok (some imageRule) := by decide +kernel
  have hcompile : imageRule.compile false = .ok imageEntry := by decide +kernel
  exact ⟨hread, hcompile, compile_wellFormed hread hcompile⟩

end ContentBlocker
