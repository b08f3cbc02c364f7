import ContentBlocker.Entry.Compile
import ContentBlocker.Proofs.Rule.Reading

/-!
# What an entry that a rule compiles to says of the rule

A rule compiles to an entry if nothing rules it out, and the entry has the trigger and the action of
the rule (`Rule.compile_eq_ok_iff`).  The trigger of a network rule is made of a url-filter, a scope
and kinds of resources (`NetworkRule.trigger_eq_ok_iff`), which are those of the content types that
are left to the rule (`resourceTypes_cases`).  The action takes back what was done before exactly if
the rule is an exception (`Rule.ignorePrevious_iff_of_action`), for rules of all types.
-/

set_option autoImplicit false
namespace ContentBlocker

/-! ## Kinds of resources -/

theorem isUnrestricted_iff {permitted : List ContentType} :
    isUnrestricted permitted = true ↔ permitted = [] ∨ .all ∈ permitted := by
  simp [isUnrestricted]

theorem isUnrestricted_eq_false_iff {permitted : List ContentType} :
    isUnrestricted permitted = false ↔ permitted ≠ [] ∧ .all ∉ permitted := by
  rw [← Bool.not_eq_true, isUnrestricted_iff, not_or]

theorem ContentType.isUnsupported_iff {type : ContentType} :
    type.isUnsupported = true ↔ type ∈ [.object, .objectSubrequest, .webRtc] := by
  cases type <;> simp [isUnsupported]

/-- A rule that names only content types with a counterpart is about those that it names, or about
the default ones if it names none or all. -/
theorem declaredTypes_eq {permitted : List ContentType}
    (hsupported : ∀ type ∈ permitted, type.isUnsupported = false) :
    declaredTypes permitted =
      if permitted = [] ∨ .all ∈ permitted then ContentType.defaults else permitted := by
  simp only [declaredTypes, isUnrestricted_iff]
  split
  · rfl
  · rename_i hrestricted
    refine List.filter_eq_self.2 fun type htype => ?_
    have hne : type ≠ .all := fun heq => hrestricted (.inr (heq ▸ htype))
    simp [hsupported type htype, hne]

/-- The content types that a rule is about: those it names, or all, without those it excludes. -/
def remainingTypes (permitted restricted : List ContentType) : List ContentType :=
  (declaredTypes permitted).filter (!restricted.contains ·)

/-- A trigger is about every kind of resources, or it lists those of the content types that are
left, of which there are some. -/
theorem resourceTypes_cases {permitted restricted : List ContentType} {isReplace : Bool}
    {types? : Option (List ResourceType)}
    (h : resourceTypes permitted restricted isReplace = .ok types?) :
    (∀ type ∈ permitted, type.isUnsupported = false) ∧
      (types? = none ∧ isUnrestricted permitted = true ∨
        remainingTypes permitted restricted ≠ [] ∧
          types? = some ((remainingTypes permitted restricted).map
            ContentType.resourceType).eraseDups) := by
  rw [resourceTypes] at h
  split at h
  · cases h
  · rename_i hfind
    obtain ⟨-, h⟩ := ite_error_eq_ok_iff.1 h
    refine ⟨fun type htype => Bool.eq_false_iff.2 (List.find?_eq_none.1 hfind type htype), ?_⟩
    dsimp only at h
    split at h
    · rename_i hnone
      cases h
      exact .inl ⟨rfl, (Bool.and_eq_true_iff.1 hnone).1⟩
    · obtain ⟨hsome, h⟩ := ite_error_eq_ok_iff.1 h
      exact .inr ⟨fun hnil => hsome (List.isEmpty_iff.2 hnil), (Except.ok.inj h).symm⟩

/-! ## Triggers of network rules -/

namespace NetworkRule

variable {rule : NetworkRule} {permitted restricted : List String}

/-- The url-filter of the trigger of a rule. -/
def pageFilter (rule : NetworkRule) (filter : String) : String :=
  match rule.documentHost? with
  | none => filter
  | some ⟨_, path⟩ => if isDocumentWide path then anyUrlFilter else filter

/-- The names from which the scope of a rule is made. -/
def scopeNames (rule : NetworkRule) (permitted : List String) : List String :=
  match rule.documentHost? with
  | none => permitted
  | some ⟨host, _⟩ => if permitted.isEmpty then [host] else permitted

theorem scopeNames_eq_nil_iff :
    rule.scopeNames permitted = [] ↔ permitted = [] ∧ rule.documentHost? = none := by
  rw [scopeNames]
  cases rule.documentHost? with
  | none => simp
  | some host => cases permitted <;> simp

/-- The trigger of a rule, given what can fail to be had. -/
def triggerOf (rule : NetworkRule) (filter : String) (scope : Scope)
    (types : Option (List ResourceType)) : Trigger where
  urlFilter := filter
  ifDomain := scope.only?
  unlessDomain := scope.except?
  resourceType := types
  loadType :=
    if rule.checksParty then some [if rule.isThirdParty then .thirdParty else .firstParty]
    else none
  caseSensitive := if rule.matchesCase then some true else none

/-- A trigger needs a url-filter, a scope, and kinds of resources, in this order. -/
theorem trigger_eq (rule : NetworkRule) (permitted restricted : List String) :
    rule.trigger permitted restricted = rule.urlFilter >>= fun filter =>
      match Scope.ofDomains? (rule.scopeNames permitted) restricted with
      | none => .error .conflictingDomains
      | some scope =>
        resourceTypes rule.permittedTypes rule.restrictedTypes rule.isReplace >>= fun types =>
          .ok (rule.triggerOf (rule.pageFilter filter) scope types) := by
  rw [NetworkRule.trigger]
  refine congrArg (rule.urlFilter >>= ·) (funext fun filter => ?_)
  rw [scopeNames, pageFilter]
  cases rule.documentHost? <;> rfl

/-- All that there is in the trigger of a network rule. -/
theorem trigger_eq_ok_iff {trigger : Trigger} :
    rule.trigger permitted restricted = .ok trigger ↔ ∃ filter scope types,
      rule.urlFilter = .ok filter ∧
      Scope.ofDomains? (rule.scopeNames permitted) restricted = some scope ∧
      resourceTypes rule.permittedTypes rule.restrictedTypes rule.isReplace = .ok types ∧
      trigger = rule.triggerOf (rule.pageFilter filter) scope types := by
  rw [trigger_eq, bind_eq_ok_iff]
  constructor
  · rintro ⟨filter, hfilter, h⟩
    split at h
    · cases h
    · rename_i scope hscope
      obtain ⟨types, htypes, h⟩ := bind_eq_ok_iff.1 h
      exact ⟨filter, scope, types, hfilter, hscope, htypes, (Except.ok.inj h).symm⟩
  · rintro ⟨filter, scope, types, hfilter, hscope, htypes, rfl⟩
    refine ⟨filter, hfilter, ?_⟩
    rw [hscope]
    exact bind_eq_ok_iff.2 ⟨types, htypes, rfl⟩

end NetworkRule

/-! ## Rules -/

namespace Rule

variable {rule : Rule} {advanced : Bool}

/-- The checks before and after the trigger and the action of a rule are made. -/
theorem compile_eq (rule : Rule) (advanced : Bool) : rule.compile advanced =
    if !rule.permittedDomains.isEmpty && !rule.restrictedDomains.isEmpty then
      .error .conflictingDomains
    else if rule.changesContent then .error .replaceRule
    else rule.trigger >>= fun trigger => rule.action advanced >>= fun action =>
      if rule.blocksPages then .error .unscopedDocumentBlock else .ok ⟨trigger, action⟩ :=
  rfl

theorem compile_eq_ok_iff {e : Entry} : rule.compile advanced = .ok e ↔
    (rule.permittedDomains = [] ∨ rule.restrictedDomains = []) ∧ rule.changesContent = false ∧
      rule.trigger = .ok e.trigger ∧ rule.action advanced = .ok e.action ∧
      rule.blocksPages = false := by
  have hdomains : ¬ (!rule.permittedDomains.isEmpty && !rule.restrictedDomains.isEmpty) = true ↔
      (rule.permittedDomains = [] ∨ rule.restrictedDomains = []) := by
    rw [Bool.not_eq_true, Bool.and_eq_false_iff, Bool.not_eq_false', Bool.not_eq_false',
      List.isEmpty_iff, List.isEmpty_iff]
  rw [compile_eq, ite_error_eq_ok_iff, hdomains, ite_error_eq_ok_iff, Bool.not_eq_true,
    bind_eq_ok_iff]
  refine and_congr_right fun _ => and_congr_right fun _ => ?_
  constructor
  · rintro ⟨trigger, htrigger, h⟩
    obtain ⟨action, haction, h⟩ := bind_eq_ok_iff.1 h
    obtain ⟨hpages, h⟩ := ite_error_eq_ok_iff.1 h
    obtain rfl := Except.ok.inj h
    exact ⟨htrigger, haction, Bool.eq_false_iff.2 hpages⟩
  · rintro ⟨htrigger, haction, hpages⟩
    exact ⟨e.trigger, htrigger, bind_eq_ok_iff.2
      ⟨e.action, haction, ite_error_eq_ok_iff.2 ⟨Bool.eq_false_iff.1 hpages, rfl⟩⟩⟩

theorem ignorePrevious_iff_of_hideAction {isException extended : Bool} {selector : String}
    {a : Action} (h : hideAction isException extended selector = .ok a) :
    a.type = .ignorePrevious ↔ isException = true := by
  rw [hideAction] at h
  split at h
  · obtain rfl := Except.ok.inj h
    cases isException <;> cases extended <;> simp
  · cases h

/-- **An entry takes back what was done before it exactly if its rule is an exception.** -/
theorem ignorePrevious_iff_of_action {a : Action} (h : rule.action advanced = .ok a) :
    a.type = .ignorePrevious ↔ rule.isException = true := by
  rw [action] at h
  cases hbody : rule.body with
  | network network =>
    rw [hbody] at h
    obtain rfl := Except.ok.inj h
    cases rule.isException <;> decide
  | hide extended selector =>
    rw [hbody] at h
    exact ignorePrevious_iff_of_hideAction h
  | script source =>
    rw [hbody] at h
    cases advanced with
    | false => cases h
    | true =>
      obtain rfl := Except.ok.inj h
      cases rule.isException <;> simp
  | scriptlet name parameter =>
    rw [hbody] at h
    cases advanced with
    | false => cases h
    | true =>
      obtain rfl := Except.ok.inj h
      cases rule.isException <;> simp

end Rule
end ContentBlocker
