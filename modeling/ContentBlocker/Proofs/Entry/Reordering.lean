import ContentBlocker.Proofs.Entry.Compile
import ContentBlocker.Proofs.Rule.Reordering

/-!
# The entry of a rule does not depend on the order of its modifiers

What is known of a rule in another order (`Rule.Reordered`) is followed through every step from the
rule to its entry.  No step depends on the order of what a rule lists: each of them gives the same,
or the same lists in another order, or fails for the same reason (`SameOutcome`).

The sentence that goes with a failure may differ, because it names the first content type that
cannot be had.
-/

set_option autoImplicit false
namespace ContentBlocker

/-! ## The same outcome -/

/-- Two steps succeed with results that correspond, or fail for the same reason. -/
inductive SameOutcome {α : Type} (R : α → α → Prop) :
    Except Rejection α → Except Rejection α → Prop
  | ok {a a' : α} (related : R a a') : SameOutcome R (.ok a) (.ok a')
  | error {e e' : Rejection} (reason_eq : e.reason = e'.reason) :
      SameOutcome R (.error e) (.error e')

namespace SameOutcome

variable {α β : Type} {R : α → α → Prop} {S : β → β → Prop} {x x' : Except Rejection α}

theorem refl (h : ∀ a, R a a) (x : Except Rejection α) : SameOutcome R x x := by
  cases x with
  | error e => exact .error rfl
  | ok a => exact .ok (h a)

theorem bind (h : SameOutcome R x x') {f f' : α → Except Rejection β}
    (hf : ∀ a a', R a a' → SameOutcome S (f a) (f' a')) : SameOutcome S (x >>= f) (x' >>= f') := by
  cases h with
  | ok hrelated => exact hf _ _ hrelated
  | error hreason => exact .error hreason

/-- What is ruled out in both is ruled out for the same reason. -/
theorem guard {b b' : Bool} (hb : b = b') (e : Rejection) (h : SameOutcome R x x') :
    SameOutcome R (if b then .error e else x) (if b' then .error e else x') := by
  obtain rfl := hb
  cases b with
  | true => exact .error rfl
  | false => exact h

end SameOutcome

/-! ## Domains -/

theorem perm_resolve {names names' : List String} (h : names.Perm names') :
    (Domain.resolve names).Perm (Domain.resolve names') :=
  perm_eraseDups (h.flatMap_right _)

/-- Two scopes are the same but for the order of their domains. -/
inductive Scope.Reordered : Scope → Scope → Prop
  | everywhere : Reordered .everywhere .everywhere
  | only {domains domains' : List String} (perm : domains.Perm domains') :
      Reordered (.only domains) (.only domains')
  | except {domains domains' : List String} (perm : domains.Perm domains') :
      Reordered (.except domains) (.except domains')

theorem exists_cons_of_perm {α : Type} {x : α} {xs ys : List α} (h : (x :: xs).Perm ys) :
    ∃ y ys', ys = y :: ys' := by
  refine List.exists_cons_of_ne_nil ?_
  rintro rfl
  exact List.cons_ne_nil x xs h.eq_nil

theorem Scope.ofDomains?_reordered {permitted permitted' restricted restricted' : List String}
    (hpermitted : permitted.Perm permitted') (hrestricted : restricted.Perm restricted') :
    Option.Rel Scope.Reordered (ofDomains? permitted restricted)
      (ofDomains? permitted' restricted') := by
  cases permitted with
  | nil =>
    obtain rfl := hpermitted.nil_eq
    cases restricted with
    | nil =>
      obtain rfl := hrestricted.nil_eq
      exact .some .everywhere
    | cons d ds =>
      obtain ⟨d', ds', rfl⟩ := exists_cons_of_perm hrestricted
      exact .some (.except (perm_resolve hrestricted))
  | cons n ns =>
    obtain ⟨n', ns', rfl⟩ := exists_cons_of_perm hpermitted
    cases restricted with
    | nil =>
      obtain rfl := hrestricted.nil_eq
      exact .some (.only (perm_resolve hpermitted))
    | cons d ds =>
      obtain ⟨d', ds', rfl⟩ := exists_cons_of_perm hrestricted
      exact .none

/-! ## Kinds of resources -/

section
variable {permitted permitted' restricted restricted' : List ContentType}
  (hpermitted : permitted.Perm permitted')
include hpermitted

theorem isUnrestricted_eq_of_perm : isUnrestricted permitted = isUnrestricted permitted' := by
  rw [isUnrestricted, isUnrestricted, hpermitted.isEmpty_eq, hpermitted.contains_eq]

theorem perm_remainingTypes (hrestricted : restricted.Perm restricted') :
    (remainingTypes permitted restricted).Perm (remainingTypes permitted' restricted') := by
  have hdeclared : (declaredTypes permitted).Perm (declaredTypes permitted') := by
    rw [declaredTypes, declaredTypes, isUnrestricted_eq_of_perm hpermitted]
    split
    · exact .refl _
    · exact hpermitted.filter _
  have hexcluded : (fun type => !restricted.contains type) =
      fun type => !restricted'.contains type :=
    funext fun type => congrArg (!·) hrestricted.contains_eq
  rw [remainingTypes, remainingTypes, hexcluded]
  exact hdeclared.filter _

theorem isSome_find?_eq_of_perm :
    (permitted.find? ContentType.isUnsupported).isSome =
      (permitted'.find? ContentType.isUnsupported).isSome := by
  rw [Bool.eq_iff_iff, List.find?_isSome, List.find?_isSome]
  exact exists_congr fun type => and_congr_left' hpermitted.mem_iff

theorem resourceTypes_reordered (hrestricted : restricted.Perm restricted') (isReplace : Bool) :
    SameOutcome (Option.Rel List.Perm) (resourceTypes permitted restricted isReplace)
      (resourceTypes permitted' restricted' isReplace) := by
  have hfind := isSome_find?_eq_of_perm hpermitted
  have hremaining := perm_remainingTypes hpermitted hrestricted
  rw [resourceTypes, resourceTypes]
  cases hfirst : permitted.find? ContentType.isUnsupported with
  | some type =>
    rw [hfirst] at hfind
    obtain ⟨type', htype'⟩ := Option.isSome_iff_exists.1 hfind.symm
    rw [htype']
    exact .error rfl
  | none =>
    rw [hfirst] at hfind
    rw [Option.not_isSome_iff_eq_none.1 (Bool.eq_false_iff.1 hfind.symm)]
    refine .guard rfl _ ?_
    change SameOutcome _ (if isUnrestricted permitted &&
        (remainingTypes permitted restricted).length == ContentType.defaults.length then _ else
        if (remainingTypes permitted restricted).isEmpty then _ else _)
      (if isUnrestricted permitted' &&
        (remainingTypes permitted' restricted').length == ContentType.defaults.length then _ else
        if (remainingTypes permitted' restricted').isEmpty then _ else _)
    rw [isUnrestricted_eq_of_perm hpermitted, hremaining.length_eq]
    split
    · exact .ok .none
    · exact .guard hremaining.isEmpty_eq _ (.ok (.some (perm_eraseDups (hremaining.map _))))

end

/-! ## Triggers -/

/-- Two triggers are the same but for the order of their lists. -/
structure Trigger.Reordered (trigger trigger' : Trigger) : Prop where
  urlFilter_eq : trigger.urlFilter = trigger'.urlFilter
  ifDomain : Option.Rel List.Perm trigger.ifDomain trigger'.ifDomain
  unlessDomain : Option.Rel List.Perm trigger.unlessDomain trigger'.unlessDomain
  resourceType : Option.Rel List.Perm trigger.resourceType trigger'.resourceType
  loadType_eq : trigger.loadType = trigger'.loadType
  caseSensitive_eq : trigger.caseSensitive = trigger'.caseSensitive

namespace NetworkRule

variable {network network' : NetworkRule}

namespace Reordered

variable (h : network.Reordered network')
include h

theorem isWebSocketOnly_eq : network.isWebSocketOnly = network'.isWebSocketOnly := by
  rw [isWebSocketOnly, isWebSocketOnly, Bool.eq_iff_iff, beq_iff_eq, beq_iff_eq,
    ← List.perm_singleton, ← List.perm_singleton]
  exact ⟨h.permittedTypes_perm.symm.trans, h.permittedTypes_perm.trans⟩

theorem urlFilter_eq : network.urlFilter = network'.urlFilter := by
  rw [urlFilter, urlFilter, h.regex_eq, h.pattern_eq, h.isWebSocketOnly_eq]

theorem documentHost?_eq : network.documentHost? = network'.documentHost? := by
  rw [documentHost?, documentHost?, h.isDocumentException_eq, h.pattern_eq]

theorem pageFilter_eq (filter : String) :
    network.pageFilter filter = network'.pageFilter filter := by
  rw [pageFilter, pageFilter, h.documentHost?_eq]

theorem perm_scopeNames {permitted permitted' : List String} (hperm : permitted.Perm permitted') :
    (network.scopeNames permitted).Perm (network'.scopeNames permitted') := by
  rw [scopeNames, scopeNames, h.documentHost?_eq]
  split
  · exact hperm
  · rw [hperm.isEmpty_eq]
    split
    · exact .refl _
    · exact hperm

theorem triggerOf_reordered (filter : String) {scope scope' : Scope}
    (hscope : scope.Reordered scope') {types types' : Option (List ResourceType)}
    (htypes : Option.Rel List.Perm types types') :
    (network.triggerOf filter scope types).Reordered (network'.triggerOf filter scope' types') where
  urlFilter_eq := rfl
  ifDomain := by
    cases hscope with
    | everywhere => exact .none
    | only hperm => exact .some hperm
    | except hperm => exact .none
  unlessDomain := by
    cases hscope with
    | everywhere => exact .none
    | only hperm => exact .none
    | except hperm => exact .some hperm
  resourceType := htypes
  loadType_eq := by
    rw [triggerOf, triggerOf, h.checksParty_eq, h.isThirdParty_eq]
  caseSensitive_eq := by
    rw [triggerOf, triggerOf, h.matchesCase_eq]

theorem trigger_reordered {permitted permitted' restricted restricted' : List String}
    (hpermitted : permitted.Perm permitted') (hrestricted : restricted.Perm restricted') :
    SameOutcome Trigger.Reordered (network.trigger permitted restricted)
      (network'.trigger permitted' restricted') := by
  have hscope := Scope.ofDomains?_reordered (h.perm_scopeNames hpermitted) hrestricted
  rw [trigger_eq, trigger_eq, h.urlFilter_eq]
  refine .bind (.refl (R := Eq) (fun _ => rfl) _) fun filter _ hfilter => ?_
  obtain rfl := hfilter
  generalize Scope.ofDomains? (network.scopeNames permitted) restricted = scope? at hscope
  generalize Scope.ofDomains? (network'.scopeNames permitted') restricted' = scope?' at hscope
  cases hscope with
  | none => exact .error rfl
  | some hscope =>
    rw [h.isReplace_eq, h.pageFilter_eq]
    exact .bind (resourceTypes_reordered h.permittedTypes_perm h.restrictedTypes_perm _)
      fun types types' htypes => .ok (h.triggerOf_reordered _ hscope htypes)

end Reordered
end NetworkRule

/-! ## Entries -/

/-- Two entries are the same but for the order of the lists in their triggers. -/
structure Entry.Reordered (e e' : Entry) : Prop where
  action_eq : e.action = e'.action
  trigger : e.trigger.Reordered e'.trigger

namespace Rule.Reordered

variable {rule rule' : Rule} (h : rule.Reordered rule')
include h

theorem changesContent_eq : rule.changesContent = rule'.changesContent := by
  obtain ⟨network, network', hbody, hbody', hnetwork⟩ := h.body
  rw [changesContent, changesContent, hbody, hbody']
  exact hnetwork.isReplace_eq

theorem blocksPages_eq : rule.blocksPages = rule'.blocksPages := by
  obtain ⟨network, network', hbody, hbody', hnetwork⟩ := h.body
  rw [blocksPages, blocksPages, hbody, hbody']
  dsimp only
  rw [h.isException_eq, hnetwork.checksParty_eq, hnetwork.isThirdParty_eq,
    hnetwork.permittedTypes_perm.contains_eq, h.permittedDomains_perm.isEmpty_eq]

theorem action_eq (advanced : Bool) : rule.action advanced = rule'.action advanced := by
  obtain ⟨network, network', hbody, hbody', -⟩ := h.body
  rw [action, action, hbody, hbody', h.isException_eq]

theorem trigger_reordered : SameOutcome Trigger.Reordered rule.trigger rule'.trigger := by
  obtain ⟨network, network', hbody, hbody', hnetwork⟩ := h.body
  rw [trigger, trigger, hbody, hbody']
  exact hnetwork.trigger_reordered h.permittedDomains_perm h.restrictedDomains_perm

/-- **A rule in another order has the same entry, or none for the same reason.** -/
theorem compile_reordered (advanced : Bool) :
    SameOutcome Entry.Reordered (rule.compile advanced) (rule'.compile advanced) := by
  rw [compile_eq, compile_eq, h.permittedDomains_perm.isEmpty_eq,
    h.restrictedDomains_perm.isEmpty_eq, h.action_eq]
  refine .guard rfl _ (.guard h.changesContent_eq _ ?_)
  refine .bind h.trigger_reordered fun trigger trigger' htrigger => ?_
  refine .bind (.refl (R := Eq) (fun _ => rfl) _) fun action _ haction => ?_
  exact .guard h.blocksPages_eq _ (.ok ⟨haction, htrigger⟩)

end Rule.Reordered

/-- **The order of modifiers does not matter.**  Where each property is set by one modifier at most,
a rule in another order is read exactly if the rule is, as the same rule, and what becomes of it is
the same. -/
theorem outcome_of_reorders {text text' : List Char} (h : Reorders text text')
    (honce : Modifier.SetsOnce (optionTexts text)) :
    ((∃ rule, Rule.ofNetwork text = .ok rule) ↔ ∃ rule', Rule.ofNetwork text' = .ok rule') ∧
    ∀ rule rule', Rule.ofNetwork text = .ok rule → Rule.ofNetwork text' = .ok rule' →
      rule.Reordered rule' ∧ ∀ advanced,
        SameOutcome Entry.Reordered (rule.compile advanced) (rule'.compile advanced) := by
  refine ⟨⟨?_, ?_⟩, fun rule rule' hrule hrule' => ?_⟩
  · rintro ⟨rule, hrule⟩
    exact h.ofNetwork_isOk hrule
  · rintro ⟨rule', hrule'⟩
    exact h.symm.ofNetwork_isOk hrule'
  · have hreordered := h.reordered honce hrule hrule'
    exact ⟨hreordered, hreordered.compile_reordered⟩

/-- The modifiers of an exception in the opposite order. -/
theorem outcome_of_reorders_of_reversed :
    let text := "@@||a.com^$image,domain=b.com|c.org,~CSS,3p".toList
    let text' := "@@||a.com^$3p, ~CSS,domain=b.com|c.org,image".toList
    Reorders text text' ∧ Modifier.SetsOnce (optionTexts text) ∧
    ∃ rule rule', Rule.ofNetwork text = .ok rule ∧ Rule.ofNetwork text' = .ok rule' ∧
      rule.Reordered rule' ∧ ∀ advanced,
        SameOutcome Entry.Reordered (rule.compile advanced) (rule'.compile advanced) := by
  intro text text'
  have h : Reorders text text' := ⟨by decide +kernel, by decide +kernel, by decide +kernel⟩
  have honce : Modifier.SetsOnce (optionTexts text) := ⟨by decide +kernel, by decide +kernel⟩
  have hrule : Rule.ofNetwork text = .ok (.ofModifiers text [.contentType false .image,
      .domain [⟨false, "b.com"⟩, ⟨false, "c.org"⟩], .contentType true .stylesheet,
      .party true]) := by
    decide +kernel
  obtain ⟨hread, hsame⟩ := outcome_of_reorders h honce
  obtain ⟨rule', hrule'⟩ := hread.1 ⟨_, hrule⟩
  exact ⟨h, honce, _, rule', hrule, hrule', hsame _ rule' hrule hrule'⟩

end ContentBlocker
