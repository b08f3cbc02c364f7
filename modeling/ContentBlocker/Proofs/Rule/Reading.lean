import ContentBlocker.Proofs.Domain.Names
import ContentBlocker.Rule.Reader

/-!
# What is known of a rule that has been read

A line that is read as a rule is a cosmetic rule in its parts or a network rule
(`Rule.cases_of_ofText?`), and of either kind all is known that the rule is made of
(`CosmeticText.toRule_eq_ok_iff`, `Rule.ofNetwork_eq_ok_iff`), down to each modifier
(`Modifier.named_of_ofChars`).  Both name domains by lists, and what is read from a list are names of
domains (`Rule.isDomainName_of_ofText?`).
-/

set_option autoImplicit false
namespace ContentBlocker

/-! ## Steps that can fail -/

section
variable {ε α β : Type}

instance decidableEqExcept [DecidableEq ε] [DecidableEq α] : DecidableEq (Except ε α)
  | .error e, .error e' =>
    decidable_of_iff (e = e') ⟨congrArg Except.error, Except.error.inj⟩
  | .ok a, .ok a' => decidable_of_iff (a = a') ⟨congrArg Except.ok, Except.ok.inj⟩
  | .error _, .ok _ => isFalse nofun
  | .ok _, .error _ => isFalse nofun

theorem bind_eq_ok_iff {x : Except ε α} {f : α → Except ε β} {b : β} :
    x >>= f = .ok b ↔ ∃ a, x = .ok a ∧ f a = .ok b := by
  cases x with
  | error e => exact ⟨fun h => (nomatch h), fun ⟨_, h, _⟩ => (nomatch h)⟩
  | ok a =>
    constructor
    · exact fun h => ⟨a, rfl, h⟩
    · rintro ⟨a', ha, hb⟩
      cases ha
      exact hb

theorem bind_eq_error_iff {x : Except ε α} {f : α → Except ε β} {e : ε} :
    x >>= f = .error e ↔ x = .error e ∨ ∃ a, x = .ok a ∧ f a = .error e := by
  cases x with
  | error e' =>
    constructor
    · exact fun h => .inl (congrArg Except.error (Except.error.inj h))
    · rintro (h | ⟨_, h, _⟩)
      · exact congrArg Except.error (Except.error.inj h)
      · cases h
  | ok a =>
    constructor
    · exact fun h => .inr ⟨a, rfl, h⟩
    · rintro (h | ⟨a', ha, h⟩)
      · cases h
      · cases ha
        exact h

theorem map_eq_ok_iff {x : Except ε α} {f : α → β} {b : β} :
    x.map f = .ok b ↔ ∃ a, x = .ok a ∧ f a = b := by
  cases x with
  | error e => exact ⟨fun h => (nomatch h), fun ⟨_, h, _⟩ => (nomatch h)⟩
  | ok a =>
    constructor
    · exact fun h => ⟨a, rfl, Except.ok.inj h⟩
    · rintro ⟨a', ha, rfl⟩
      cases ha
      rfl

theorem ite_error_eq_ok_iff {p : Prop} [Decidable p] {e : ε} {x : Except ε α} {a : α} :
    (if p then .error e else x) = .ok a ↔ ¬ p ∧ x = .ok a := by
  by_cases h : p
  · rw [if_pos h]
    exact ⟨fun h => (nomatch h), fun hnot => absurd h hnot.1⟩
  · rw [if_neg h]
    exact ⟨fun hx => ⟨h, hx⟩, And.right⟩

theorem toOption_eq_some_iff {x : Except ε α} {a : α} : x.toOption = some a ↔ x = .ok a := by
  cases x with
  | error e => exact ⟨fun h => (nomatch h), fun h => (nomatch h)⟩
  | ok a' =>
    exact ⟨fun h => congrArg Except.ok (Option.some.inj h),
      fun h => congrArg some (Except.ok.inj h)⟩

/-- What a list is read as comes from its elements. -/
theorem exists_of_mem_mapM {f : α → Except ε β} {xs : List α} {ys : List β}
    (h : xs.mapM f = .ok ys) : ∀ y ∈ ys, ∃ x ∈ xs, f x = .ok y := by
  induction xs generalizing ys with
  | nil =>
    cases h
    exact fun y hy => absurd hy List.not_mem_nil
  | cons x xs ih =>
    rw [List.mapM_cons, bind_eq_ok_iff] at h
    obtain ⟨y, hy, h⟩ := h
    obtain ⟨rest, hrest, h⟩ := bind_eq_ok_iff.1 h
    cases h
    intro z hz
    rcases List.mem_cons.1 hz with rfl | hz
    · exact ⟨x, List.mem_cons_self, hy⟩
    · obtain ⟨x', hx', hz⟩ := ih hrest z hz
      exact ⟨x', List.mem_cons_of_mem x hx', hz⟩

/-- Every element of a list that is read is read as something. -/
theorem exists_mem_of_mapM {f : α → Except ε β} {xs : List α} {ys : List β}
    (h : xs.mapM f = .ok ys) : ∀ x ∈ xs, ∃ y ∈ ys, f x = .ok y := by
  induction xs generalizing ys with
  | nil => exact fun x hx => absurd hx List.not_mem_nil
  | cons x xs ih =>
    rw [List.mapM_cons, bind_eq_ok_iff] at h
    obtain ⟨y, hy, h⟩ := h
    obtain ⟨rest, hrest, h⟩ := bind_eq_ok_iff.1 h
    cases h
    intro z hz
    rcases List.mem_cons.1 hz with rfl | hz
    · exact ⟨y, List.mem_cons_self, hy⟩
    · obtain ⟨y', hy', hz⟩ := ih hrest z hz
      exact ⟨y', List.mem_cons_of_mem y hy', hz⟩

end

/-! ## The two forms of rules -/

/-- A line that is read as a rule is read in one of two ways. -/
theorem Rule.cases_of_ofText? {line : String} {rule : Rule} (h : ofText? line = .ok (some rule)) :
    (∃ parts, CosmeticText.ofChars? (Text.trimChars line.toList) = some parts ∧
      parts.toRule (String.ofList (Text.trimChars line.toList)) = .ok rule) ∨
    CosmeticText.ofChars? (Text.trimChars line.toList) = none ∧
      ofNetwork (Text.trimChars line.toList) = .ok rule := by
  rw [ofText?] at h
  split at h
  · cases h
  · split at h
    · rename_i parts hparts
      obtain ⟨rule', hrule, heq⟩ := map_eq_ok_iff.1 h
      cases heq
      exact .inl ⟨parts, hparts, hrule⟩
    · rename_i hnone
      obtain ⟨rule', hrule, heq⟩ := map_eq_ok_iff.1 h
      cases heq
      exact .inr ⟨hnone, hrule⟩

/-- All that there is in a cosmetic rule. -/
theorem CosmeticText.toRule_eq_ok_iff {text : String} {parts : CosmeticText} {rule : Rule} :
    parts.toRule text = .ok rule ↔ ∃ kind domains body,
      parts.marker.kind.supported? = some kind ∧ Text.trimChars parts.content ≠ [] ∧
      ListedDomain.readList ',' parts.domains = .ok domains ∧
      RuleBody.ofContent kind (Text.trimChars parts.content) = .ok body ∧
      rule = ⟨text, permittedNames domains, restrictedNames domains, parts.marker.isException,
        body⟩ := by
  rw [toRule]
  cases parts.marker.kind.supported? with
  | none => exact ⟨fun h => (nomatch h), fun ⟨_, _, _, h, _⟩ => (nomatch h)⟩
  | some kind =>
    cases hcontent : Text.trimChars parts.content with
    | nil => exact ⟨fun h => (nomatch h), fun ⟨_, _, _, _, h, _⟩ => absurd rfl h⟩
    | cons c content =>
      constructor
      · intro h
        obtain ⟨domains, hdomains, h⟩ := bind_eq_ok_iff.1 h
        obtain ⟨body, hbody, h⟩ := bind_eq_ok_iff.1 h
        exact ⟨kind, domains, body, rfl, List.cons_ne_nil _ _, hdomains, hbody,
          (Except.ok.inj h).symm⟩
      · rintro ⟨kind', domains, body, hkind, -, hdomains, hbody, rfl⟩
        cases hkind
        exact bind_eq_ok_iff.2 ⟨domains, hdomains, bind_eq_ok_iff.2 ⟨body, hbody, rfl⟩⟩

/-- A network rule with some modifiers, once the text is in its parts. -/
def Rule.ofModifiers (text : List Char) (modifiers : List Modifier) : Rule where
  text := String.ofList text
  permittedDomains := permittedNames (Modifier.listedDomains modifiers)
  restrictedDomains := restrictedNames (Modifier.listedDomains modifiers)
  isException := (splitException text).1
  body := .network <|
    Modifier.toNetworkRule (splitException text).1
      (String.ofList (splitModifiers (splitException text).2).1)
      (patternRegex? (splitModifiers (splitException text).2).1) modifiers

/-- All that there is in a network rule. -/
theorem Rule.ofNetwork_eq_ok_iff {text : List Char} {rule : Rule} :
    ofNetwork text = .ok rule ↔ ∃ modifiers,
      Modifier.readList (splitModifiers (splitException text).2).2 = .ok modifiers ∧
      rule = ofModifiers text modifiers := by
  rw [ofNetwork]
  constructor
  · intro h
    obtain ⟨modifiers, hmodifiers, h⟩ := bind_eq_ok_iff.1 h
    exact ⟨modifiers, hmodifiers, (Except.ok.inj h).symm⟩
  · rintro ⟨modifiers, hmodifiers, rfl⟩
    exact bind_eq_ok_iff.2 ⟨modifiers, hmodifiers, rfl⟩

/-! ## Modifiers -/

namespace Modifier

/-- The names of the modifiers about whose site a URL is of. -/
def partyNames : List String :=
  ["third-party", "3p", "first-party", "1p"]

/-- The names of the modifier about documents. -/
def documentNames : List String :=
  ["document", "doc"]

/-- What a modifier with a given value and name can be. -/
inductive Named (value : List Char) : String → Modifier → Prop
  | domain {domains : List ListedDomain} (read : ListedDomain.readList '|' value = .ok domains) :
      Named value "domain" (.domain domains)
  | party {name : String} (mem : name ∈ partyNames) (third : Bool) : Named value name (.party third)
  | matchCase (on : Bool) : Named value "match-case" (.matchCase on)
  | document {name : String} (mem : name ∈ documentNames) (negated : Bool) :
      Named value name (.document negated)
  | replace : Named value "replace" .replace
  | contentType {name : String} {type : ContentType}
      (ofModifier?_eq : ContentType.ofModifier? name = some type) (negated : Bool) :
      Named value name (.contentType negated type)

/-- **All that a modifier can be that is read.** -/
theorem named_of_ofChars {s : List Char} {modifier : Modifier} (h : ofChars s = .ok modifier) :
    Named (split s).2.2 (split s).2.1 modifier := by
  rw [ofChars] at h
  dsimp only at h
  generalize (split s).2.1 = name at h ⊢
  split at h
  · obtain ⟨-, h⟩ := ite_error_eq_ok_iff.1 h
    obtain ⟨domains, hdomains, rfl⟩ := map_eq_ok_iff.1 h
    exact .domain hdomains
  iterate 4
    cases h
    exact .party (by decide) _
  · cases h
    exact .matchCase _
  iterate 2
    cases h
    exact .document (by decide) _
  · obtain ⟨-, h⟩ := ite_error_eq_ok_iff.1 h
    cases h
    exact .replace
  · rw [ofContentType] at h
    split at h
    · cases h
    · rename_i htype
      obtain ⟨-, h⟩ := ite_error_eq_ok_iff.1 h
      cases h
      exact .contentType htype _

end Modifier

/-! ## What network rules and cosmetic rules do -/

/-- What a cosmetic rule does is nothing that a network rule does. -/
theorem RuleBody.ne_network_of_ofContent {kind : CosmeticKind} {content : List Char}
    {body : RuleBody} (h : ofContent kind content = .ok body) (network : NetworkRule) :
    body ≠ .network network := by
  rintro rfl
  cases kind with
  | hide => cases h
  | extendedHide => cases h
  | script =>
    rw [ofContent] at h
    split at h
    · obtain ⟨call, -, heq⟩ := map_eq_ok_iff.1 h
      cases heq
    · cases h

/-- A rule about what is loaded has been read as a network rule. -/
theorem Rule.ofNetwork_of_body {line : String} {rule : Rule} {network : NetworkRule}
    (h : ofText? line = .ok (some rule)) (hbody : rule.body = .network network) :
    ofNetwork (Text.trimChars line.toList) = .ok rule := by
  rcases cases_of_ofText? h with ⟨parts, -, hrule⟩ | ⟨-, hrule⟩
  · obtain ⟨kind, domains, body, -, -, -, hcontent, rfl⟩ :=
      CosmeticText.toRule_eq_ok_iff.1 hrule
    exact absurd hbody (RuleBody.ne_network_of_ofContent hcontent network)
  · exact hrule

/-- The regular expression of a rule that has been read is that of its pattern. -/
theorem Rule.regex_of_ofText? {line : String} {rule : Rule} {network : NetworkRule}
    (h : ofText? line = .ok (some rule)) (hbody : rule.body = .network network) :
    network.regex = patternRegex? network.pattern.toList := by
  obtain ⟨modifiers, -, rfl⟩ := ofNetwork_eq_ok_iff.1 (ofNetwork_of_body h hbody)
  obtain rfl := RuleBody.network.inj hbody
  exact congrArg patternRegex? String.toList_ofList.symm

/-! ## The domains that a rule names -/

theorem ListedDomain.isDomainName_of_readList {separator : Char} {s : List Char}
    {domains : List ListedDomain} (h : readList separator s = .ok domains) :
    ∀ d ∈ domains, IsDomainName d.name := by
  intro d hd
  obtain ⟨part, -, hpart⟩ := exists_of_mem_mapM h d hd
  exact isDomainName_of_ofChars hpart

/-- A modifier names no domains, or those of the list that is its value. -/
theorem Modifier.domains_of_ofChars {s : List Char} {modifier : Modifier}
    (h : ofChars s = .ok modifier) : modifier.domains = [] ∨
      ListedDomain.readList '|' (split s).2.2 = .ok modifier.domains := by
  have hnamed := named_of_ofChars h
  generalize (split s).2.1 = name at hnamed
  cases hnamed with
  | domain hread => exact .inr hread
  | party | matchCase | document | replace | contentType => exact .inl rfl

theorem Modifier.isDomainName_of_readList {s : List Char} {modifiers : List Modifier}
    (h : readList s = .ok modifiers) : ∀ d ∈ listedDomains modifiers, IsDomainName d.name := by
  intro d hd
  obtain ⟨modifier, hmodifier, hd⟩ := List.mem_flatMap.1 hd
  obtain ⟨part, -, hpart⟩ := exists_of_mem_mapM h modifier hmodifier
  rcases domains_of_ofChars hpart with hnone | hlist
  · rw [hnone] at hd
    exact absurd hd List.not_mem_nil
  · exact ListedDomain.isDomainName_of_readList hlist d hd

theorem isDomainName_of_mem_names {domains : List ListedDomain}
    (h : ∀ d ∈ domains, IsDomainName d.name) :
    ∀ name ∈ permittedNames domains ++ restrictedNames domains, IsDomainName name := by
  intro name hname
  rcases List.mem_append.1 hname with hname | hname
  · obtain ⟨d, hd, rfl⟩ := List.mem_map.1 hname
    exact h d (List.mem_filter.1 hd).1
  · obtain ⟨d, hd, rfl⟩ := List.mem_map.1 hname
    exact h d (List.mem_filter.1 hd).1

/-- **A rule that has been read has names of domains in its lists.** -/
theorem Rule.isDomainName_of_ofText? {line : String} {rule : Rule}
    (h : ofText? line = .ok (some rule)) :
    ∀ name ∈ rule.permittedDomains ++ rule.restrictedDomains, IsDomainName name := by
  rcases cases_of_ofText? h with ⟨parts, -, hrule⟩ | ⟨-, hrule⟩
  · obtain ⟨kind, domains, body, -, -, hdomains, -, rfl⟩ :=
      CosmeticText.toRule_eq_ok_iff.1 hrule
    exact isDomainName_of_mem_names (ListedDomain.isDomainName_of_readList hdomains)
  · obtain ⟨modifiers, hmodifiers, rfl⟩ := ofNetwork_eq_ok_iff.1 hrule
    exact isDomainName_of_mem_names (Modifier.isDomainName_of_readList hmodifiers)

end ContentBlocker
