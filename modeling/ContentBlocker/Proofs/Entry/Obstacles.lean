import ContentBlocker.Proofs.Entry.UrlFilter

/-!
# What stands in the way of an entry

A rule has an entry unless something stands in its way.  `Obstacle` is what can, and each obstacle
is said in terms of what the rule is (`Obstacle.Stands`), whatever part of compiling comes across
it.  There may be several, but a user is told of one only and rejections are counted by that one, so
their order matters (`Obstacle.inOrder`).

Compiling a rule is a sequence of steps that can fail, and each of them fails exactly at the first
of its own obstacles (`StopsAtFirst`).  This is kept when steps follow one another
(`StopsAtFirst.bind`), so it holds of the whole (`compile_reports_first_obstacle`).
-/

set_option autoImplicit false
namespace ContentBlocker

/-! ## Obstacles -/

/-- What a rule says about what is loaded, if it does. -/
def Rule.network? (rule : Rule) : Option NetworkRule :=
  match rule.body with
  | .network network => some network
  | _ => none

/-- The selector of a rule that hides something. -/
def Rule.selector? (rule : Rule) : Option String :=
  match rule.body with
  | .hide _ selector => some selector
  | _ => none

namespace NetworkRule

/-- The regular expression that the URLs of a rule are told by: its own if that is not empty, and
else the one for its pattern, unless the pattern is one of any URL or is tied to a host. -/
def filterSource? (rule : NetworkRule) : Option String :=
  if rule.regex ≠ none ∧ rule.regex ≠ some "" then rule.regex
  else if rule.pattern ∈ UrlPattern.anyUrlPatterns ∨ ['|', '|'] <+: rule.pattern.toList then none
  else some (UrlPattern.toFilter rule.pattern)

/-- The content types that a rule is about before its exclusions: those that it names, or the
default ones if it names none or all. -/
def effectiveTypes (rule : NetworkRule) : List ContentType :=
  if rule.permittedTypes = [] ∨ .all ∈ rule.permittedTypes then ContentType.defaults
  else rule.permittedTypes

end NetworkRule

/-- What can stand in the way of an entry. -/
inductive Obstacle where
  /-- Domains on which the rule applies beside such on which it does not. -/
  | bothKindsOfDomains
  | changedContent
  | foreignRegex
  /-- A host on whose pages alone the rule applies, beside domains on which it does not. -/
  | hostBesideExclusions
  | noKindOfResources
  | loadingSelector
  | advancedBlockingOff
  | blockedPages
  deriving DecidableEq

namespace Obstacle

/-- All obstacles, in the order in which a rule comes across them. -/
def inOrder : List Obstacle :=
  [.bothKindsOfDomains, .changedContent, .foreignRegex, .hostBesideExclusions, .noKindOfResources,
   .loadingSelector, .advancedBlockingOff, .blockedPages]

theorem mem_inOrder (o : Obstacle) : o ∈ inOrder := by
  cases o <;> decide

/-- The reason that is given for an obstacle. -/
def reason : Obstacle → RejectReason
  | .bothKindsOfDomains | .hostBesideExclusions => .conflictingDomains
  | .changedContent => .replaceRule
  | .foreignRegex => .unsupportedRegex
  | .noKindOfResources => .unsupportedContentType
  | .loadingSelector => .unsafeCss
  | .advancedBlockingOff => .advancedBlockingDisabled
  | .blockedPages => .unscopedDocumentBlock

/-- Whether an obstacle stands in the way of a rule. -/
def Stands (rule : Rule) (advanced : Bool) : Obstacle → Prop
  | .bothKindsOfDomains => rule.permittedDomains ≠ [] ∧ rule.restrictedDomains ≠ []
  | .changedContent => ∃ network ∈ rule.network?, network.isReplace = true
  | .foreignRegex => ∃ network ∈ rule.network?,
      ∃ source ∈ network.filterSource?, Regex.check source ≠ none
  | .hostBesideExclusions => ∃ network ∈ rule.network?,
      network.isDocumentException = true ∧ HostPattern.ofPattern? network.pattern ≠ none ∧
        rule.permittedDomains = [] ∧ rule.restrictedDomains ≠ []
  | .noKindOfResources => ∃ network ∈ rule.network?,
      (∃ type ∈ network.permittedTypes, type ∈ [.object, .objectSubrequest, .webRtc]) ∨
        ∀ type ∈ network.effectiveTypes, type ∈ network.restrictedTypes
  | .loadingSelector => ∃ selector ∈ rule.selector?,
      "url(".toList <:+: Text.lowerChars selector.toList
  | .advancedBlockingOff => advanced = false ∧ (rule.type = .script ∨ rule.type = .scriptlet)
  | .blockedPages => ∃ network ∈ rule.network?,
      rule.isException = false ∧ network.checksParty = true ∧ network.isThirdParty = true ∧
        .subdocument ∈ network.permittedTypes ∧ rule.permittedDomains = []

instance (rule : Rule) (advanced : Bool) : DecidablePred (Stands rule advanced)
  | .bothKindsOfDomains => inferInstanceAs (Decidable (_ ∧ _))
  | .changedContent => inferInstanceAs (Decidable (∃ network ∈ rule.network?, _))
  | .foreignRegex => inferInstanceAs (Decidable (∃ network ∈ rule.network?, _))
  | .hostBesideExclusions => inferInstanceAs (Decidable (∃ network ∈ rule.network?, _))
  | .noKindOfResources => inferInstanceAs (Decidable (∃ network ∈ rule.network?, _))
  | .loadingSelector => inferInstanceAs (Decidable (∃ selector ∈ rule.selector?, _))
  | .advancedBlockingOff => inferInstanceAs (Decidable (_ ∧ _))
  | .blockedPages => inferInstanceAs (Decidable (∃ network ∈ rule.network?, _))

/-- The first of some obstacles that stands in the way of a rule. -/
def firstOf? (rule : Rule) (advanced : Bool) (obstacles : List Obstacle) : Option Obstacle :=
  obstacles.find? fun o => o.Stands rule advanced

end Obstacle

/-! ## Steps that can fail -/

/-- What can fail does so exactly if one of some obstacles stands in the way of a rule, and for the
reason of the first that does. -/
def StopsAtFirst {α : Type} (rule : Rule) (advanced : Bool) (obstacles : List Obstacle) :
    Except Rejection α → Prop
  | .ok _ => Obstacle.firstOf? rule advanced obstacles = none
  | .error rejection =>
    (Obstacle.firstOf? rule advanced obstacles).map Obstacle.reason = some rejection.reason

namespace StopsAtFirst

open Obstacle (firstOf?)

variable {α β : Type} {rule : Rule} {advanced : Bool} {o : Obstacle}
  {obstacles obstacles' : List Obstacle} {x : Except Rejection α} {rejection : Rejection}

theorem ok (a : α) (h : ∀ o ∈ obstacles, ¬ o.Stands rule advanced) :
    StopsAtFirst rule advanced obstacles (.ok a) := by
  simpa [StopsAtFirst, firstOf?] using h

theorem error (hstands : o.Stands rule advanced) (hreason : rejection.reason = o.reason) :
    StopsAtFirst rule advanced (o :: obstacles) (.error rejection : Except Rejection α) := by
  simp [StopsAtFirst, firstOf?, hstands, hreason]

/-- What does not stand in the way can be left out. -/
theorem skip (hstands : ¬ o.Stands rule advanced) (h : StopsAtFirst rule advanced obstacles x) :
    StopsAtFirst rule advanced (o :: obstacles) x := by
  have hnext : firstOf? rule advanced (o :: obstacles) = firstOf? rule advanced obstacles :=
    List.find?_cons_of_neg (by simpa using hstands)
  rw [StopsAtFirst.eq_def] at h ⊢
  rwa [hnext]

/-- One step comes across its obstacles before the next step does. -/
theorem bind {f : α → Except Rejection β} (hx : StopsAtFirst rule advanced obstacles x)
    (hf : ∀ a, StopsAtFirst rule advanced obstacles' (f a)) :
    StopsAtFirst rule advanced (obstacles ++ obstacles') (x >>= f) := by
  have happend : firstOf? rule advanced (obstacles ++ obstacles') =
      (firstOf? rule advanced obstacles).or (firstOf? rule advanced obstacles') :=
    List.find?_append
  cases x with
  | error rejection =>
    obtain ⟨o, ho, hreason⟩ := Option.map_eq_some_iff.1 hx
    show (firstOf? rule advanced (obstacles ++ obstacles')).map Obstacle.reason = _
    rw [happend, ho, Option.some_or, Option.map_some, hreason]
  | ok a =>
    have hnone : firstOf? rule advanced obstacles = none := hx
    have hnext := hf a
    show StopsAtFirst rule advanced (obstacles ++ obstacles') (f a)
    rw [StopsAtFirst.eq_def] at hnext ⊢
    rwa [happend, hnone, Option.none_or]

/-- A check comes across one obstacle. -/
theorem check {p : Prop} [Decidable p] (hstands : o.Stands rule advanced ↔ p)
    (hreason : rejection.reason = o.reason) (hx : ¬ p → StopsAtFirst rule advanced obstacles x) :
    StopsAtFirst rule advanced (o :: obstacles) (if p then .error rejection else x) := by
  by_cases hp : p
  · rw [if_pos hp]
    exact error (hstands.2 hp) hreason
  · rw [if_neg hp]
    exact skip (fun h => hp (hstands.1 h)) (hx hp)

end StopsAtFirst

/-! ## Url-filters -/

section
variable {rule : Rule} {advanced : Bool} {network : NetworkRule}

theorem NetworkRule.filter_regex (network : NetworkRule) : network.regex.filter (!·.isEmpty) =
    if network.regex ≠ none ∧ network.regex ≠ some "" then network.regex else none := by
  cases network.regex with
  | none => rfl
  | some source => by_cases hempty : source = "" <;> simp [hempty]

theorem UrlPattern.isAnyUrl_iff {pattern : String} :
    isAnyUrl pattern = true ↔ pattern ∈ anyUrlPatterns :=
  List.contains_iff_mem

theorem UrlPattern.isHostAnchored_iff {pattern : String} :
    isHostAnchored pattern = true ↔ ['|', '|'] <+: pattern.toList :=
  List.isPrefixOf_iff_prefix

/-- The url-filter of a rule is the regular expression that its URLs are told by, or a fixed one. -/
theorem NetworkRule.exists_urlFilter_eq (network : NetworkRule) : ∃ fixed,
    network.urlFilter = match network.filterSource? with
      | some source => checkedFilter source
      | none => .ok fixed := by
  simp only [urlFilter, filterSource?, filter_regex, UrlPattern.isAnyUrl_iff,
    UrlPattern.isHostAnchored_iff]
  by_cases hregex : network.regex ≠ none ∧ network.regex ≠ some ""
  · obtain ⟨source, hsource⟩ := Option.ne_none_iff_exists'.1 hregex.1
    rw [if_pos hregex, if_pos hregex, hsource]
    exact ⟨"", rfl⟩
  · rw [if_neg hregex, if_neg hregex]
    by_cases hany : network.pattern ∈ UrlPattern.anyUrlPatterns
    · simp [hany]
    · by_cases hbars : ['|', '|'] <+: network.pattern.toList <;> simp [hany, hbars]

theorem stopsAtFirst_urlFilter (h : rule.network? = some network) :
    StopsAtFirst rule advanced [.foreignRegex] network.urlFilter := by
  obtain ⟨fixed, hfilter⟩ := network.exists_urlFilter_eq
  rw [hfilter]
  have hstands : Obstacle.Stands rule advanced .foreignRegex ↔
      ∃ source ∈ network.filterSource?, Regex.check source ≠ none := by
    simp [Obstacle.Stands, h]
  cases hsource : network.filterSource? with
  | none => exact .ok _ (by simp [hstands, hsource])
  | some source =>
    dsimp only
    rw [checkedFilter]
    cases hcheck : Regex.check source with
    | none => exact .ok _ (by simp [hstands, hsource, hcheck])
    | some fault => exact .error (by simp [hstands, hsource, hcheck]) rfl

/-! ## Kinds of resources -/

theorem NetworkRule.remainingTypes_eq_nil_iff
    (hsupported : ∀ type ∈ network.permittedTypes, type.isUnsupported = false) :
    remainingTypes network.permittedTypes network.restrictedTypes = [] ↔
      ∀ type ∈ network.effectiveTypes, type ∈ network.restrictedTypes := by
  rw [remainingTypes, declaredTypes_eq hsupported, ← effectiveTypes, List.filter_eq_nil_iff]
  simp

theorem stopsAtFirst_resourceTypes (h : rule.network? = some network)
    (hreplace : network.isReplace = false) :
    StopsAtFirst rule advanced [.noKindOfResources]
      (resourceTypes network.permittedTypes network.restrictedTypes network.isReplace) := by
  have hstands : Obstacle.Stands rule advanced .noKindOfResources ↔
      (∃ type ∈ network.permittedTypes, type.isUnsupported = true) ∨
        ∀ type ∈ network.effectiveTypes, type ∈ network.restrictedTypes := by
    simp only [Obstacle.Stands, h, Option.mem_some_iff, exists_eq_left',
      ContentType.isUnsupported_iff]
  rw [resourceTypes]
  split
  · rename_i type htype
    exact .error (hstands.2 (.inl ⟨type, List.mem_of_find?_eq_some htype,
      List.find?_some htype⟩)) rfl
  · rename_i hnone
    have hsupported : ∀ type ∈ network.permittedTypes, type.isUnsupported = false :=
      fun type htype => Bool.eq_false_iff.2 (List.find?_eq_none.1 hnone type htype)
    have hnil := network.remainingTypes_eq_nil_iff hsupported
    have hnone : ¬ ∃ type ∈ network.permittedTypes, type.isUnsupported = true := by
      simpa using hsupported
    rw [hreplace, if_neg Bool.false_ne_true]
    dsimp only
    rw [← remainingTypes]
    split
    · rename_i hlength
      refine .ok _ (List.forall_mem_singleton.2 ?_)
      rw [hstands, ← hnil]
      rintro (hsome | hempty)
      · exact hnone hsome
      · rw [hempty] at hlength
        simp [ContentType.defaults] at hlength
    · split
      · rename_i hempty
        exact .error (hstands.2 (.inr (hnil.1 (List.isEmpty_iff.1 hempty)))) rfl
      · rename_i hsome
        refine .ok _ (List.forall_mem_singleton.2 ?_)
        rw [hstands, ← hnil, ← List.isEmpty_iff]
        exact not_or.2 ⟨hnone, hsome⟩

/-! ## Triggers -/

theorem Scope.ofDomains?_eq_none_iff {permitted restricted : List String} :
    ofDomains? permitted restricted = none ↔ permitted ≠ [] ∧ restricted ≠ [] := by
  cases permitted <;> cases restricted <;> simp [ofDomains?]

theorem NetworkRule.documentHost?_ne_none_iff : network.documentHost? ≠ none ↔
    network.isDocumentException = true ∧ HostPattern.ofPattern? network.pattern ≠ none := by
  rw [documentHost?]
  split <;> simp_all

/-- The obstacles that the trigger of a rule can come across. -/
def triggerObstacles : List Obstacle :=
  [.foreignRegex, .hostBesideExclusions, .noKindOfResources]

section
variable (hdomains : ¬ Obstacle.Stands rule advanced .bothKindsOfDomains)
include hdomains

/-- Beside domains of its own a rule has no use for the host of its pattern. -/
theorem stands_hostBesideExclusions_iff (h : rule.network? = some network) :
    Obstacle.Stands rule advanced .hostBesideExclusions ↔
      Scope.ofDomains? (network.scopeNames rule.permittedDomains) rule.restrictedDomains =
        none := by
  simp only [Obstacle.Stands, h, Option.mem_some_iff, exists_eq_left',
    Scope.ofDomains?_eq_none_iff, ne_eq, NetworkRule.scopeNames_eq_nil_iff]
  constructor
  · rintro ⟨hexception, hpattern, -, hrestricted⟩
    refine ⟨fun hnone => ?_, hrestricted⟩
    exact NetworkRule.documentHost?_ne_none_iff.2 ⟨hexception, hpattern⟩ hnone.2
  · rintro ⟨hnot, hrestricted⟩
    have hpermitted : rule.permittedDomains = [] :=
      Decidable.of_not_not fun hne => hdomains ⟨hne, hrestricted⟩
    obtain ⟨hexception, hpattern⟩ :=
      NetworkRule.documentHost?_ne_none_iff.1 fun hnone => hnot ⟨hpermitted, hnone⟩
    exact ⟨hexception, hpattern, hpermitted, hrestricted⟩

theorem stopsAtFirst_networkTrigger (h : rule.network? = some network)
    (hreplace : network.isReplace = false) :
    StopsAtFirst rule advanced triggerObstacles
      (network.trigger rule.permittedDomains rule.restrictedDomains) := by
  have hstands := stands_hostBesideExclusions_iff hdomains h
  rw [NetworkRule.trigger_eq]
  refine (stopsAtFirst_urlFilter h).bind fun filter => ?_
  split
  · rename_i hnone
    exact .error (hstands.2 hnone) rfl
  · rename_i scope hscope
    refine .skip (fun hnone => ?_) ?_
    · rw [hstands.1 hnone] at hscope
      cases hscope
    · exact (stopsAtFirst_resourceTypes h hreplace).bind fun types => .ok _ nofun

theorem stopsAtFirst_cosmeticTrigger (h : rule.network? = none) :
    StopsAtFirst rule advanced triggerObstacles
      (cosmeticTrigger rule.permittedDomains rule.restrictedDomains) := by
  rw [cosmeticTrigger]
  split
  · rename_i hnone
    exact absurd (Scope.ofDomains?_eq_none_iff.1 hnone) hdomains
  · exact .ok _ (by simp [triggerObstacles, Obstacle.Stands, h])

theorem stopsAtFirst_trigger (hreplace : ¬ Obstacle.Stands rule advanced .changedContent) :
    StopsAtFirst rule advanced triggerObstacles rule.trigger := by
  rw [Rule.trigger]
  split
  · rename_i network hbody
    have hnetwork : rule.network? = some network := by simp [Rule.network?, hbody]
    refine stopsAtFirst_networkTrigger hdomains hnetwork (Bool.eq_false_iff.2 fun htrue => ?_)
    exact hreplace ⟨network, hnetwork, htrue⟩
  all_goals
    rename_i hbody
    exact stopsAtFirst_cosmeticTrigger hdomains (by simp [Rule.network?, hbody])

end

/-! ## Actions -/

theorem isSafeSelector_iff {selector : String} : isSafeSelector selector = true ↔
    ¬ "url(".toList <:+: Text.lowerChars selector.toList := by
  rw [isSafeSelector, Bool.not_eq_true', ← Bool.not_eq_true, Text.occursIn_iff]
  rfl

theorem stopsAtFirst_hideAction {extended : Bool} {selector : String}
    (hbody : rule.body = .hide extended selector) :
    StopsAtFirst rule advanced [.loadingSelector, .advancedBlockingOff]
      (hideAction rule.isException extended selector) := by
  have hstands : Obstacle.Stands rule advanced .loadingSelector ↔
      "url(".toList <:+: Text.lowerChars selector.toList := by
    simp only [Obstacle.Stands, Rule.selector?, hbody, Option.mem_some_iff, exists_eq_left']
  rw [hideAction]
  split
  · rename_i hsafe
    refine .skip (fun h => isSafeSelector_iff.1 hsafe (hstands.1 h)) (.ok _ ?_)
    cases extended <;> simp [Obstacle.Stands, Rule.type, hbody]
  · rename_i hunsafe
    exact .error (hstands.2 (Decidable.of_not_not fun h => hunsafe (isSafeSelector_iff.2 h))) rfl

theorem stopsAtFirst_advanced {α : Type} {kind : AdvancedKind} (action : α)
    (hselector : rule.selector? = none) (htype : rule.type = .script ∨ rule.type = .scriptlet) :
    StopsAtFirst rule advanced [.loadingSelector, .advancedBlockingOff]
      (if advanced then .ok action else .error (.advancedBlockingDisabled kind)) := by
  refine .skip (by simp [Obstacle.Stands, hselector]) ?_
  cases advanced with
  | true => exact .ok _ (by simp [Obstacle.Stands])
  | false => exact .error ⟨rfl, htype⟩ rfl

theorem stopsAtFirst_action :
    StopsAtFirst rule advanced [.loadingSelector, .advancedBlockingOff] (rule.action advanced) := by
  rw [Rule.action]
  split
  · rename_i network hbody
    exact .ok _ (by simp [Obstacle.Stands, Rule.selector?, Rule.type, hbody])
  · rename_i extended selector hbody
    exact stopsAtFirst_hideAction hbody
  · rename_i source hbody
    exact stopsAtFirst_advanced _ (by simp [Rule.selector?, hbody]) (by simp [Rule.type, hbody])
  · rename_i name parameter hbody
    exact stopsAtFirst_advanced _ (by simp [Rule.selector?, hbody]) (by simp [Rule.type, hbody])

/-! ## Rules -/

theorem stands_changedContent_iff :
    Obstacle.Stands rule advanced .changedContent ↔ rule.changesContent = true := by
  rw [Rule.changesContent]
  cases hbody : rule.body <;> simp [Obstacle.Stands, Rule.network?, hbody]

theorem stands_blockedPages_iff :
    Obstacle.Stands rule advanced .blockedPages ↔ rule.blocksPages = true := by
  rw [Rule.blocksPages]
  cases hbody : rule.body <;>
    simp [Obstacle.Stands, Rule.network?, hbody, and_assoc]

/-- **Compiling stops at the first obstacle.** -/
theorem stopsAtFirst_compile (rule : Rule) (advanced : Bool) :
    StopsAtFirst rule advanced Obstacle.inOrder (rule.compile advanced) := by
  rw [Rule.compile_eq]
  refine .check (by simp [Obstacle.Stands]) rfl fun hdomains => ?_
  refine .check stands_changedContent_iff rfl fun hreplace => ?_
  have htrigger : StopsAtFirst rule advanced triggerObstacles rule.trigger :=
    stopsAtFirst_trigger (by simpa [Obstacle.Stands] using hdomains) fun h =>
      hreplace (stands_changedContent_iff.1 h)
  refine htrigger.bind fun trigger => stopsAtFirst_action.bind fun action => ?_
  exact .check stands_blockedPages_iff rfl fun _ => .ok _ nofun

end

/-- **A rule is refused for the first obstacle that stands in its way, and for nothing else.** -/
theorem compile_reports_first_obstacle (rule : Rule) (advanced : Bool) :
    (∀ reason, (∃ rejection, rule.compile advanced = .error rejection ∧
        rejection.reason = reason) ↔
      ∃ o, Obstacle.firstOf? rule advanced Obstacle.inOrder = some o ∧ o.reason = reason) ∧
    ((∃ entry, rule.compile advanced = .ok entry) ↔
      ∀ o : Obstacle, ¬ o.Stands rule advanced) := by
  have hstops := stopsAtFirst_compile rule advanced
  have hall : Obstacle.firstOf? rule advanced Obstacle.inOrder = none ↔
      ∀ o : Obstacle, ¬ o.Stands rule advanced := by
    simp [Obstacle.firstOf?, Obstacle.mem_inOrder]
  rw [← hall]
  cases hcompile : rule.compile advanced with
  | ok entry =>
    rw [hcompile] at hstops
    have hnone : Obstacle.firstOf? rule advanced Obstacle.inOrder = none := hstops
    simp [hnone]
  | error rejection =>
    rw [hcompile] at hstops
    obtain ⟨o, ho, hreason⟩ := Option.map_eq_some_iff.1 hstops
    simp [ho, hreason]

-- Two obstacles stand in the way, and the alternation in the regular expression is the second.
example :
    let network : NetworkRule := { pattern := "/a|b/", regex := some "a|b", isReplace := true }
    let rule : Rule := ⟨"/a|b/$replace", [], [], false, .network network⟩
    Obstacle.inOrder.filter (·.Stands rule true) = [.changedContent, .foreignRegex] := by
  decide +kernel

end ContentBlocker
