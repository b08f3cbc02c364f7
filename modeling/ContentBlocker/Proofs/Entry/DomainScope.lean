import ContentBlocker.Proofs.Conversion.ModifierNames
import ContentBlocker.Proofs.Entry.WellFormed
import ContentBlocker.Proofs.Rule.WrittenNetwork
import ContentBlocker.Proofs.Text.Lines

/-!
# Domain modifiers and the pages that an entry is about

A network rule names domains by its domain modifiers, with bars between them.  The value of such a
modifier must not be empty, but it may be made of bars and blanks alone, and then it names no domain
(`bar_accepted`).

* A rule has domains exactly if the value of one of its domain modifiers has something else in it
  (`NetworkLine.hasDomains_iff`).  This is followed from the value (`ListedDomain.parts_eq_nil_iff`)
  through the modifier (`Modifier.domains_ne_nil_iff`).
* An entry has a list of domains exactly if its rule has domains or takes back all that is done on
  the pages of a host (`NetworkRule.isScoped_iff_of_trigger`).

Both together are `domain_modifiers_scope`.
-/

set_option autoImplicit false
namespace ContentBlocker

/-! ## Values -/

namespace ListedDomain

/-- A list has no parts exactly if it is made of separators and blanks. -/
theorem parts_eq_nil_iff {separator : Char} {s : List Char} :
    parts separator s = [] ↔ ∀ c ∈ s, c = separator ∨ Text.isBlank c = true := by
  rw [← forall_mem_splitOn_iff, parts]
  simp [Text.trimChars_eq_nil_iff]

/-- Every part of a list that is read is a domain. -/
theorem eq_nil_iff_of_readList {separator : Char} {s : List Char} {domains : List ListedDomain}
    (h : readList separator s = .ok domains) : domains = [] ↔ parts separator s = [] := by
  have hlength := (mapM_eq_ok_iff_forall₂.1 h).length_eq
  rw [← List.length_eq_zero_iff, ← List.length_eq_zero_iff, hlength]

end ListedDomain

/-! ## Modifiers -/

namespace Modifier

/-- There is something in the value of a domain modifier besides bars and blanks. -/
def NamesDomain (value : List Char) : Prop :=
  ∃ c ∈ value, c ≠ '|' ∧ Text.isBlank c = false

instance (value : List Char) : Decidable (NamesDomain value) :=
  decidable_of_iff (value.any (fun c => c != '|' && !Text.isBlank c) = true) <| by
    simp [NamesDomain]

theorem namesDomain_iff {value : List Char} :
    NamesDomain value ↔ ListedDomain.parts '|' value ≠ [] := by
  rw [ne_eq, ListedDomain.parts_eq_nil_iff, NamesDomain]
  simp

/-- **A modifier names domains exactly if it is a domain modifier** with something in its value. -/
theorem domains_ne_nil_iff {s : List Char} {modifier : Modifier} (h : ofChars s = .ok modifier) :
    modifier.domains ≠ [] ↔ writtenName s = "domain" ∧ NamesDomain (split s).2.2 := by
  have hnamed := named_of_ofChars h
  have hparty : "domain" ∉ partyNames := by decide
  have hdocument : "domain" ∉ documentNames := by decide
  have htype : ContentType.ofModifier? "domain" = none := by decide
  rw [writtenName]
  generalize (split s).2.1 = name at hnamed
  cases hnamed with
  | domain hread =>
    rw [and_iff_right rfl, namesDomain_iff]
    exact not_congr (ListedDomain.eq_nil_iff_of_readList hread)
  | party hname => exact iff_of_false (fun hne => hne rfl) fun h => hparty (h.1 ▸ hname)
  | matchCase => exact iff_of_false (fun hne => hne rfl) fun h => absurd h.1 (by decide)
  | document hname => exact iff_of_false (fun hne => hne rfl) fun h => hdocument (h.1 ▸ hname)
  | replace => exact iff_of_false (fun hne => hne rfl) fun h => absurd h.1 (by decide)
  | contentType hname =>
    refine iff_of_false (fun hne => hne rfl) fun h => ?_
    rw [h.1, htype] at hname
    cases hname

/-- The values of the domain modifiers of a list. -/
def domainValues (s : List Char) : List (List Char) :=
  ((parts s).filter (writtenName · == "domain")).map (split · |>.2.2)

theorem mem_domainValues_iff {s value : List Char} :
    value ∈ domainValues s ↔
      ∃ part ∈ parts s, writtenName part = "domain" ∧ (split part).2.2 = value := by
  simp [domainValues, and_assoc]

theorem listedDomains_ne_nil_iff {s : List Char} {modifiers : List Modifier}
    (h : readList s = .ok modifiers) :
    listedDomains modifiers ≠ [] ↔ ∃ value ∈ domainValues s, NamesDomain value := by
  have hlisted : listedDomains modifiers ≠ [] ↔ ∃ modifier ∈ modifiers, modifier.domains ≠ [] := by
    simp [listedDomains, List.flatMap_eq_nil_iff]
  rw [hlisted]
  constructor
  · rintro ⟨modifier, hmodifier, hne⟩
    obtain ⟨part, hpart, hread⟩ := exists_of_mem_mapM h modifier hmodifier
    obtain ⟨hname, hvalue⟩ := (domains_ne_nil_iff hread).1 hne
    exact ⟨_, mem_domainValues_iff.2 ⟨part, hpart, hname, rfl⟩, hvalue⟩
  · rintro ⟨value, hmem, hvalue⟩
    obtain ⟨part, hpart, hname, rfl⟩ := mem_domainValues_iff.1 hmem
    obtain ⟨modifier, hmodifier, hread⟩ := exists_mem_of_mapM h part hpart
    exact ⟨modifier, hmodifier, (domains_ne_nil_iff hread).2 ⟨hname, hvalue⟩⟩

end Modifier

/-! ## Rules -/

/-- Every domain of a list is one on which the rule applies, or one on which it does not. -/
theorem names_ne_nil_iff {domains : List ListedDomain} :
    permittedNames domains ≠ [] ∨ restrictedNames domains ≠ [] ↔ domains ≠ [] := by
  cases domains with
  | nil => simp [permittedNames, restrictedNames]
  | cons d ds => cases hd : d.restricted <;> simp [permittedNames, restrictedNames, hd]

/-- A rule names domains on which it applies, or domains on which it does not. -/
def Rule.HasDomains (rule : Rule) : Prop :=
  rule.permittedDomains ≠ [] ∨ rule.restrictedDomains ≠ []

/-- The values of the domain modifiers of a network rule on a line. -/
def Rule.domainValues (line : String) : List (List Char) :=
  Modifier.domainValues (splitModifiers (splitException (Text.trimChars line.toList)).2).2

/-- **A rule has domains exactly if one of its domain modifiers names some.** -/
theorem NetworkLine.hasDomains_iff (l : NetworkLine) :
    l.rule.HasDomains ↔ ∃ value ∈ Rule.domainValues l.line, Modifier.NamesDomain value := by
  obtain ⟨modifiers, hmodifiers, hrule⟩ := l.exists_ofModifiers
  rw [Rule.HasDomains, hrule]
  exact names_ne_nil_iff.trans (Modifier.listedDomains_ne_nil_iff hmodifiers)

/-! ## Entries -/

/-- A trigger names domains on which alone it applies, or domains on which it does not. -/
def Trigger.IsScoped (trigger : Trigger) : Prop :=
  (∃ domains, trigger.ifDomain = some domains ∧ domains ≠ []) ∨
    ∃ domains, trigger.unlessDomain = some domains ∧ domains ≠ []

theorem Scope.eq_everywhere_iff {permitted restricted : List String} {scope : Scope}
    (h : ofDomains? permitted restricted = some scope) :
    scope = .everywhere ↔ permitted = [] ∧ restricted = [] := by
  cases permitted <;> cases restricted <;> simp [ofDomains?] at h <;> simp [← h]

/-- Where all lists of domains have domains in them, only the scope without one is everywhere. -/
theorem Trigger.WellFormed.isScoped_iff {trigger : Trigger} (h : trigger.WellFormed) {scope : Scope}
    (honly : trigger.ifDomain = scope.only?) (hexcept : trigger.unlessDomain = scope.except?) :
    trigger.IsScoped ↔ scope ≠ .everywhere := by
  cases scope with
  | everywhere => simp [IsScoped, honly, hexcept, Scope.only?, Scope.except?]
  | only domains => exact iff_of_true (.inl ⟨_, honly, (h.ifDomain _ honly).ne_nil⟩) nofun
  | except domains => exact iff_of_true (.inr ⟨_, hexcept, (h.unlessDomain _ hexcept).ne_nil⟩) nofun

/-- **A trigger is about some pages only if its rule has domains or is about the pages of a host**,
and otherwise about all. -/
theorem NetworkRule.isScoped_iff_of_trigger {rule : NetworkRule}
    {permitted restricted : List String} {trigger : Trigger}
    (h : rule.trigger permitted restricted = .ok trigger) (hformed : trigger.WellFormed) :
    trigger.IsScoped ↔ (permitted ≠ [] ∨ restricted ≠ []) ∨ rule.documentHost? ≠ none := by
  obtain ⟨filter, scope, types, -, hscope, -, rfl⟩ := trigger_eq_ok_iff.1 h
  rw [hformed.isScoped_iff rfl rfl, ne_eq, Scope.eq_everywhere_iff hscope, scopeNames_eq_nil_iff]
  simp only [Decidable.not_and_iff_not_or_not, ne_eq]
  exact or_right_comm

/-- **What domain modifiers do to a rule and to its entry.**  A rule has domains exactly if a domain
modifier of it has something in its value besides bars and blanks.  In an entry of the rule there is
a list of domains, and not an empty one, exactly if it does or if the rule takes back all that is
done on the pages of a host. -/
theorem domain_modifiers_scope (l : NetworkLine) :
    (l.rule.HasDomains ↔ ∃ value ∈ Rule.domainValues l.line, Modifier.NamesDomain value) ∧
    ∀ advanced entry, l.rule.compile advanced = .ok entry →
      (entry.trigger.IsScoped ↔
        (∃ value ∈ Rule.domainValues l.line, Modifier.NamesDomain value) ∨
          l.network.documentHost? ≠ none) := by
  refine ⟨l.hasDomains_iff, fun advanced entry hentry => ?_⟩
  have hformed := (compile_wellFormed l.read hentry).trigger
  obtain ⟨-, -, htrigger, -⟩ := Rule.compile_eq_ok_iff.1 hentry
  rw [Rule.trigger, l.body] at htrigger
  rw [← l.hasDomains_iff]
  exact NetworkRule.isScoped_iff_of_trigger htrigger hformed

/-- A line with a domain modifier that has a part without a domain. -/
def gapLine : String :=
  "||a.example^$domain= |~b.example"

/-- The rule on it. -/
def gapRule : Rule :=
  Rule.ofModifiers gapLine.toList [.domain [⟨true, "b.example"⟩]]

/-- The entry of the rule. -/
def gapEntry : Entry where
  trigger :=
    { urlFilter := UrlPattern.toFilter "||a.example^"
      unlessDomain := some ["b.example"] }
  action := { type := .block }

theorem domain_modifiers_scope_of_gapLine :
    ∃ l : NetworkLine, l.line = gapLine ∧ l.rule = gapRule ∧
      Rule.domainValues l.line = [" |~b.example".toList] ∧ l.rule.HasDomains ∧
      l.rule.compile false = .ok gapEntry ∧ gapEntry.trigger.IsScoped := by
  have hread : Rule.ofText? gapLine = .ok (some gapRule) := by decide +kernel
  have hcompile : gapRule.compile false = .ok gapEntry := by decide +kernel
  have hvalues : Rule.domainValues gapLine = [" |~b.example".toList] := by decide +kernel
  let l : NetworkLine := ⟨gapLine, gapRule, _, hread, rfl⟩
  have hnames : ∃ value ∈ Rule.domainValues gapLine, Modifier.NamesDomain value := by
    rw [hvalues]
    decide +kernel
  obtain ⟨hdomains, hscoped⟩ := domain_modifiers_scope l
  exact ⟨l, rfl, rfl, hvalues, hdomains.2 hnames, hcompile,
    (hscoped false gapEntry hcompile).2 (.inl hnames)⟩

/-- A line with a domain modifier that has no domain in it. -/
def barLine : String :=
  "||a.example^$domain=|"

/-- The rule on it. -/
def barRule : Rule :=
  Rule.ofModifiers barLine.toList [.domain []]

/-- The entry of the rule, which is about all pages. -/
def barEntry : Entry where
  trigger := { urlFilter := UrlPattern.toFilter "||a.example^" }
  action := { type := .block }

/-- **A domain modifier without a domain is accepted.**  So not all rules with domain modifiers have
domains, nor are their entries about some pages only. -/
theorem bar_accepted :
    (¬ ∀ l : NetworkLine, Rule.domainValues l.line ≠ [] → l.rule.HasDomains) ∧
    ¬ ∀ l : NetworkLine, Rule.domainValues l.line ≠ [] → ∀ advanced entry,
      l.rule.compile advanced = .ok entry → entry.trigger.IsScoped := by
  have hread : Rule.ofText? barLine = .ok (some barRule) := by decide +kernel
  have hcompile : barRule.compile false = .ok barEntry := by decide +kernel
  have hvalues : Rule.domainValues barLine ≠ [] := by decide +kernel
  let l : NetworkLine := ⟨barLine, barRule, _, hread, rfl⟩
  refine ⟨fun hall => ?_, fun hall => ?_⟩
  · rcases hall l hvalues with hpermitted | hrestricted
    · exact hpermitted rfl
    · exact hrestricted rfl
  · rcases hall l hvalues false barEntry hcompile with ⟨_, hdomains, -⟩ | ⟨_, hdomains, -⟩
    · cases hdomains
    · cases hdomains

end ContentBlocker
