import ContentBlocker.Proofs.Entry.Reordering

/-!
# The kinds of resources of a rule, told by what its lists hold

Which kinds of resources a rule is about is worked out from two lists of content types.  `KindsOf`
says the same case by case, by what the lists hold and without going through them:

* a content type without a counterpart among the kinds of resources rules the entry out, and so does
  the replacing of content;
* a rule that names no content type, or all of them, is about every kind as long as it excludes none
  of the default ones;
* otherwise the trigger lists the kinds of the content types that are left, each at the first place
  where one of its content types stands, and there is no entry if none is left.

One case applies to each rule, and `resourceTypes` gives what it says (`resourceTypes_eq_iff`).  To
name a content type again changes nothing, and neither does it to exclude one again
(`resourceTypes_append_cons`, `resourceTypes_congr_restricted`).
-/

set_option autoImplicit false
namespace ContentBlocker

/-- The content types without a counterpart among the kinds of resources. -/
def ContentType.withoutKind : List ContentType :=
  [.object, .objectSubrequest, .webRtc]

/-- The content types that a rule is about which names some or none, before its exclusions. -/
def typesBeforeExclusions (permitted : List ContentType) : List ContentType :=
  if permitted = [] ∨ .all ∈ permitted then ContentType.defaults else permitted

/-- What the lists of a rule come to, told by what they hold. -/
inductive KindsOf (permitted restricted : List ContentType) (isReplace : Bool) :
    Except Rejection (Option (List ResourceType)) → Prop
  /-- The first content type without a counterpart rules the entry out. -/
  | withoutKind {before behind : List ContentType} {type : ContentType}
      (permitted_eq : permitted = before ++ type :: behind)
      (mem_withoutKind : type ∈ ContentType.withoutKind)
      (first : ∀ type ∈ before, type ∉ ContentType.withoutKind) :
      KindsOf permitted restricted isReplace (.error (.unsupportedContentType type))
  | replacing (haveKinds : ∀ type ∈ permitted, type ∉ ContentType.withoutKind)
      (isReplace_eq : isReplace = true) :
      KindsOf permitted restricted isReplace (.error .replaceRule)
  | every (haveKinds : ∀ type ∈ permitted, type ∉ ContentType.withoutKind)
      (isReplace_eq : isReplace = false) (unrestricted : permitted = [] ∨ .all ∈ permitted)
      (noneExcluded : ∀ type ∈ ContentType.defaults, type ∉ restricted) :
      KindsOf permitted restricted isReplace (.ok none)
  | noneLeft (haveKinds : ∀ type ∈ permitted, type ∉ ContentType.withoutKind)
      (isReplace_eq : isReplace = false)
      (allExcluded : ∀ type ∈ typesBeforeExclusions permitted, type ∈ restricted) :
      KindsOf permitted restricted isReplace (.error .noContentType)
  | listed {types : List ResourceType}
      (haveKinds : ∀ type ∈ permitted, type ∉ ContentType.withoutKind)
      (isReplace_eq : isReplace = false)
      (limited : ¬ (permitted = [] ∨ .all ∈ permitted) ∨
        ∃ type ∈ ContentType.defaults, type ∈ restricted)
      (someLeft : ∃ type ∈ typesBeforeExclusions permitted, type ∉ restricted)
      (keepsFirst : KeepsFirst (((typesBeforeExclusions permitted).filter
        (· ∉ restricted)).map ContentType.resourceType) types) :
      KindsOf permitted restricted isReplace (.ok (some types))

variable {permitted restricted : List ContentType} {isReplace : Bool}

/-! ## One case for each rule -/

theorem ContentType.isUnsupported_eq_false_iff {type : ContentType} :
    type.isUnsupported = false ↔ type ∉ withoutKind := by
  rw [← Bool.not_eq_true, isUnsupported_iff]
  rfl

theorem find?_isUnsupported_eq_none_iff : permitted.find? ContentType.isUnsupported = none ↔
    ∀ type ∈ permitted, type ∉ ContentType.withoutKind := by
  simp only [List.find?_eq_none, Bool.not_eq_true, ContentType.isUnsupported_eq_false_iff]

theorem remainingTypes_eq (h : ∀ type ∈ permitted, type ∉ ContentType.withoutKind) :
    remainingTypes permitted restricted =
      (typesBeforeExclusions permitted).filter (· ∉ restricted) := by
  have hsupported : ∀ type ∈ permitted, type.isUnsupported = false :=
    fun type htype => ContentType.isUnsupported_eq_false_iff.2 (h type htype)
  rw [remainingTypes, declaredTypes_eq hsupported, typesBeforeExclusions]
  simp

/-- A rule is about every kind of resources if it is about all content types and as many of the
default ones are left as there are, which is to say all. -/
theorem isUnrestricted_and_length_iff
    (h : ∀ type ∈ permitted, type ∉ ContentType.withoutKind) :
    (isUnrestricted permitted && (remainingTypes permitted restricted).length ==
        ContentType.defaults.length) = true ↔
      (permitted = [] ∨ .all ∈ permitted) ∧
        ∀ type ∈ ContentType.defaults, type ∉ restricted := by
  rw [Bool.and_eq_true, beq_iff_eq, isUnrestricted_iff, remainingTypes_eq h]
  refine and_congr_right fun hunrestricted => ?_
  rw [typesBeforeExclusions, if_pos hunrestricted, List.length_filter_eq_length_iff]
  simp only [decide_eq_true_eq]

theorem isEmpty_remainingTypes_iff (h : ∀ type ∈ permitted, type ∉ ContentType.withoutKind) :
    (remainingTypes permitted restricted).isEmpty = true ↔
      ∀ type ∈ typesBeforeExclusions permitted, type ∈ restricted := by
  rw [List.isEmpty_iff, remainingTypes_eq h, List.filter_eq_nil_iff]
  simp

/-- The cases of a rule that names only content types with a counterpart. -/
theorem resourceTypes_of_haveKinds (h : ∀ type ∈ permitted, type ∉ ContentType.withoutKind) :
    resourceTypes permitted restricted isReplace =
      if isReplace = true then .error .replaceRule
      else if (permitted = [] ∨ .all ∈ permitted) ∧
          ∀ type ∈ ContentType.defaults, type ∉ restricted then
        .ok none
      else if ∀ type ∈ typesBeforeExclusions permitted, type ∈ restricted then
        .error .noContentType
      else
        .ok (some (((typesBeforeExclusions permitted).filter (· ∉ restricted)).map
          ContentType.resourceType).eraseDups) := by
  rw [resourceTypes, find?_isUnsupported_eq_none_iff.2 h, ← remainingTypes_eq h]
  simp only [← isUnrestricted_and_length_iff h, ← isEmpty_remainingTypes_iff h]
  rfl

theorem kindsOf_resourceTypes (permitted restricted : List ContentType) (isReplace : Bool) :
    KindsOf permitted restricted isReplace (resourceTypes permitted restricted isReplace) := by
  cases hfind : permitted.find? ContentType.isUnsupported with
  | some type =>
    obtain ⟨htype, before, behind, hpermitted, hfirst⟩ := List.find?_eq_some_iff_append.1 hfind
    rw [resourceTypes, hfind]
    refine .withoutKind hpermitted (ContentType.isUnsupported_iff.1 htype) fun type htype => ?_
    exact ContentType.isUnsupported_eq_false_iff.1 (by simpa using hfirst type htype)
  | none =>
    have hkinds := find?_isUnsupported_eq_none_iff.1 hfind
    rw [resourceTypes_of_haveKinds hkinds]
    split
    · rename_i hreplace
      exact .replacing hkinds hreplace
    rename_i hreplace
    have hreplace := Bool.eq_false_iff.2 hreplace
    split
    · rename_i hevery
      exact .every hkinds hreplace hevery.1 hevery.2
    rename_i hlimited
    split
    · rename_i hnone
      exact .noneLeft hkinds hreplace hnone
    · rename_i hsome
      rw [not_and_or] at hlimited
      push Not at hlimited hsome
      exact .listed hkinds hreplace (by simpa using hlimited) hsome (keepsFirst_eraseDups _)

/-- **The kinds of resources of a rule are what the cases say.** -/
theorem resourceTypes_eq_iff {outcome : Except Rejection (Option (List ResourceType))} :
    resourceTypes permitted restricted isReplace = outcome ↔
      KindsOf permitted restricted isReplace outcome := by
  refine ⟨fun h => h ▸ kindsOf_resourceTypes permitted restricted isReplace, fun h => ?_⟩
  cases h with
  | @withoutKind before behind type hpermitted htype hfirst =>
    have hfind : permitted.find? ContentType.isUnsupported = some type := by
      refine List.find?_eq_some_iff_append.2 ⟨ContentType.isUnsupported_iff.2 htype, before, behind,
        hpermitted, fun type htype => ?_⟩
      simpa using ContentType.isUnsupported_eq_false_iff.2 (hfirst type htype)
    rw [resourceTypes, hfind]
  | replacing hkinds hreplace => rw [resourceTypes_of_haveKinds hkinds, if_pos hreplace]
  | every hkinds hreplace hunrestricted hapart =>
    rw [resourceTypes_of_haveKinds hkinds, if_neg (Bool.eq_false_iff.1 hreplace),
      if_pos ⟨hunrestricted, hapart⟩]
  | noneLeft hkinds hreplace hall =>
    have hlimited : ¬ ((permitted = [] ∨ .all ∈ permitted) ∧
        ∀ type ∈ ContentType.defaults, type ∉ restricted) := by
      rintro ⟨hunrestricted, hapart⟩
      rw [typesBeforeExclusions, if_pos hunrestricted] at hall
      exact hapart .image (by decide) (hall .image (by decide))
    rw [resourceTypes_of_haveKinds hkinds, if_neg (Bool.eq_false_iff.1 hreplace), if_neg hlimited,
      if_pos hall]
  | listed hkinds hreplace hlimited hsome hkeeps =>
    have hnot : ¬ ((permitted = [] ∨ .all ∈ permitted) ∧
        ∀ type ∈ ContentType.defaults, type ∉ restricted) := by
      rw [not_and_or]
      push Not
      simpa using hlimited
    have hleft : ¬ ∀ type ∈ typesBeforeExclusions permitted, type ∈ restricted := by
      push Not
      exact hsome
    rw [resourceTypes_of_haveKinds hkinds, if_neg (Bool.eq_false_iff.1 hreplace), if_neg hnot,
      if_neg hleft, keepsFirst_iff.1 hkeeps]

/-- Why a rule has no kinds of resources. -/
theorem reason_eq_of_resourceTypes {e : Rejection}
    (h : resourceTypes permitted restricted isReplace = .error e) :
    e.reason = if isReplace = true ∧ ∀ type ∈ permitted, type ∉ ContentType.withoutKind then
      .replaceRule else .unsupportedContentType := by
  cases resourceTypes_eq_iff.1 h with
  | @withoutKind before behind type hpermitted htype _ =>
    rw [if_neg]
    · rfl
    · rintro ⟨-, hkinds⟩
      exact hkinds type (hpermitted ▸ List.mem_append_right _ List.mem_cons_self) htype
  | replacing hkinds hreplace =>
    rw [if_pos ⟨hreplace, hkinds⟩]
    rfl
  | noneLeft _ hreplace _ =>
    rw [if_neg]
    · rfl
    · rintro ⟨htrue, -⟩
      rw [hreplace] at htrue
      cases htrue

/-! ## Content types that are listed again -/

section
variable {before behind : List ContentType} {type : ContentType}

theorem find?_append_cons_of_mem {p : ContentType → Bool} (h : type ∈ before) :
    (before ++ type :: behind).find? p = (before ++ behind).find? p := by
  rw [List.find?_append, List.find?_append]
  cases hfirst : before.find? p with
  | some first => rfl
  | none => rw [List.find?_cons_of_neg (List.find?_eq_none.1 hfirst type h)]

theorem mem_append_cons_iff (h : type ∈ before ++ behind) (t : ContentType) :
    t ∈ before ++ type :: behind ↔ t ∈ before ++ behind := by
  rw [List.mem_append, List.mem_cons, List.mem_append]
  refine ⟨?_, Or.imp_right .inr⟩
  rintro (ht | rfl | ht)
  · exact .inl ht
  · exact List.mem_append.1 h
  · exact .inr ht

theorem unrestricted_append_cons_iff (h : type ∈ before ++ behind) :
    before ++ type :: behind = [] ∨ .all ∈ before ++ type :: behind ↔
      before ++ behind = [] ∨ .all ∈ before ++ behind := by
  rw [mem_append_cons_iff h]
  simp [List.ne_nil_of_mem h]

theorem eraseDups_map_filter_append_cons {p : ContentType → Bool} (h : type ∈ before) :
    (((before ++ type :: behind).filter p).map ContentType.resourceType).eraseDups =
      (((before ++ behind).filter p).map ContentType.resourceType).eraseDups := by
  rw [List.filter_append, List.filter_append, List.filter_cons, List.map_append, List.map_append]
  split
  · rename_i hp
    exact eraseDups_append_cons_of_mem
      (List.mem_map_of_mem (List.mem_filter.2 ⟨h, hp⟩)) _
  · rfl

/-- **To name a content type again changes nothing.** -/
theorem resourceTypes_append_cons (h : type ∈ before) (restricted : List ContentType)
    (isReplace : Bool) : resourceTypes (before ++ type :: behind) restricted isReplace =
      resourceTypes (before ++ behind) restricted isReplace := by
  have hmem := mem_append_cons_iff (List.mem_append_left behind h)
  have hunrestricted := unrestricted_append_cons_iff (List.mem_append_left behind h)
  cases hfind : (before ++ behind).find? ContentType.isUnsupported with
  | some first => rw [resourceTypes, resourceTypes, find?_append_cons_of_mem h, hfind]
  | none =>
    have hkinds := find?_isUnsupported_eq_none_iff.1 hfind
    rw [resourceTypes_of_haveKinds hkinds,
      resourceTypes_of_haveKinds fun t ht => hkinds t ((hmem t).1 ht)]
    simp only [typesBeforeExclusions, hunrestricted]
    by_cases hall : before ++ behind = [] ∨ .all ∈ before ++ behind
    · simp only [hall, if_true]
    · simp only [hall, if_false, hmem, eraseDups_map_filter_append_cons h]

end

/-- It does not matter how often and in which order content types are excluded. -/
theorem resourceTypes_congr_restricted {restricted' : List ContentType}
    (h : ∀ type, type ∈ restricted ↔ type ∈ restricted') (permitted : List ContentType)
    (isReplace : Bool) : resourceTypes permitted restricted isReplace =
      resourceTypes permitted restricted' isReplace := by
  have hcontains (type : ContentType) : restricted.contains type = restricted'.contains type := by
    rw [Bool.eq_iff_iff, List.contains_iff_mem, List.contains_iff_mem]
    exact h type
  simp only [resourceTypes, hcontains]

/-- **The kinds of resources of a rule are told by what its lists hold**, and to list a content type
again behind its first place changes nothing.  Before its first place it can change the order of the
kinds, and which content type is named as the reason, but nothing else. -/
theorem resourceTypes_told_by_sets (permitted restricted : List ContentType) (isReplace : Bool) :
    (∀ outcome, resourceTypes permitted restricted isReplace = outcome ↔
      KindsOf permitted restricted isReplace outcome) ∧
    (∀ e, resourceTypes permitted restricted isReplace = .error e →
      e.reason = if isReplace = true ∧ ∀ type ∈ permitted, type ∉ ContentType.withoutKind then
        .replaceRule else .unsupportedContentType) ∧
    (∀ before behind type, before ++ behind = permitted → type ∈ permitted →
      (type ∈ before → resourceTypes (before ++ type :: behind) restricted isReplace =
        resourceTypes permitted restricted isReplace) ∧
      SameOutcome (Option.Rel List.Perm)
        (resourceTypes (before ++ type :: behind) restricted isReplace)
        (resourceTypes permitted restricted isReplace)) ∧
    (∀ before behind type, before ++ behind = restricted → type ∈ restricted →
      resourceTypes permitted (before ++ type :: behind) isReplace =
        resourceTypes permitted restricted isReplace) := by
  refine ⟨fun _ => resourceTypes_eq_iff, fun _ => reason_eq_of_resourceTypes, ?_, ?_⟩
  · rintro before behind type rfl htype
    refine ⟨fun hbefore => resourceTypes_append_cons hbefore restricted isReplace, ?_⟩
    -- the copy is moved to the end, where it changes nothing
    have hlast : resourceTypes (before ++ behind ++ [type]) restricted isReplace =
        resourceTypes (before ++ behind ++ []) restricted isReplace :=
      resourceTypes_append_cons htype restricted isReplace
    rw [List.append_nil] at hlast
    rw [← hlast]
    refine resourceTypes_reordered ?_ (.refl _) isReplace
    exact List.perm_middle.trans (List.perm_append_singleton type (before ++ behind)).symm
  · rintro before behind type rfl htype
    exact resourceTypes_congr_restricted (mem_append_cons_iff htype) permitted isReplace

/-- Pings are named twice, then scripts are excluded twice, and last there are two content types
without a counterpart, which matter more than the replacing of content. -/
theorem resourceTypes_told_by_sets_of_repeats :
    (ContentType.ping ∈ [ContentType.ping, .image] ∧
      resourceTypes [.ping, .image, .ping, .script] [.script] false =
        resourceTypes [.ping, .image, .script] [.script] false) ∧
    (ContentType.script ∈ [ContentType.script] ∧
      resourceTypes [.ping, .image, .script] [.script, .script] false =
        resourceTypes [.ping, .image, .script] [.script] false) ∧
    (resourceTypes [.image, .webRtc, .object] [] true = .error (.unsupportedContentType .webRtc) ∧
      (Rejection.unsupportedContentType .webRtc).reason = .unsupportedContentType) := by
  obtain ⟨-, -, hpermitted, hrestricted⟩ :=
    resourceTypes_told_by_sets [.ping, .image, .script] [.script] false
  obtain ⟨-, hreason, -, -⟩ := resourceTypes_told_by_sets [.image, .webRtc, .object] [] true
  refine ⟨⟨by decide, ?_⟩, ⟨by decide, ?_⟩, by decide, ?_⟩
  · exact (hpermitted [.ping, .image] [.script] .ping rfl (by decide)).1 (by decide)
  · exact hrestricted [.script] [] .script rfl (by decide)
  · exact hreason _ (by decide)

/-- A kind stands where the first of its content types does that is left. -/
example : resourceTypes [.ping, .image, .other, .script] [.image] false =
    .ok (some [.raw, .script]) := by decide

end ContentBlocker
