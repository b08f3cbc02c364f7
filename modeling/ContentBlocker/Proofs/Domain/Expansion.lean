import Mathlib.Data.List.Forall2
import ContentBlocker.Proofs.Domain.Names

/-!
# What a list of names stands for

A name with a wildcard at its end stands for many domains, and different names can stand for the
same one, in either order: `com` and the wildcard alone, or `a.co.*` and `a.*`, which both stand for
`a.co.uk`.  A list of names stands for the domains of all of them, one name after another, each
domain at its first place only (`resolve_eq_iff`).

Hence further names only add domains at the end (`resolve_append`), and, because what a name stands
for has no wildcard at its end, to resolve a list a second time changes nothing (`resolve_resolve`).
-/

set_option autoImplicit false
namespace ContentBlocker.Domain

/-- The name that counts: in lower case and without blanks around it. -/
def plainName (name : String) : List Char :=
  Text.lowerChars (Text.trimChars name.toList)

/-- The domains that a name stands for, in their order. -/
inductive StandsFor (name : String) : List String → Prop
  | nothing (blank : ∀ c ∈ name.toList, Text.isBlank c = true) : StandsFor name []
  | suffixes (plainName_eq : plainName name = ".*".toList) : StandsFor name Domain.suffixes
  | below {base : List Char} (ne_nil : base ≠ [])
      (plainName_eq : plainName name = base ++ ".*".toList) :
      StandsFor name (Domain.suffixes.map fun suffix => String.ofList base ++ "." ++ suffix)
  | itself (notBlank : ∃ c ∈ name.toList, Text.isBlank c = false)
      (noWildcard : ¬ ".*".toList <:+ plainName name) :
      StandsFor name [String.ofList (plainName name)]

theorem plainName_eq_nil_iff {name : String} :
    plainName name = [] ↔ ∀ c ∈ name.toList, Text.isBlank c = true := by
  rw [plainName, Text.lowerChars_eq_nil_iff, Text.trimChars_eq_nil_iff]

theorem expand_eq (name : String) : expand name = expandName (plainName name) :=
  rfl

/-- The base of a name is what stands before the wildcard at its end. -/
theorem expandName_append {base : List Char} (h : base ≠ []) :
    expandName (base ++ ".*".toList) =
      suffixes.map fun suffix => String.ofList base ++ "." ++ suffix := by
  have hne : base ++ ".*".toList ≠ [] := List.append_ne_nil_of_left_ne_nil h _
  have hwildcard : base ++ ".*".toList ≠ wildcard.toList := by
    intro heq
    have hlength := congrArg List.length heq
    rw [List.length_append] at hlength
    exact h (List.length_eq_zero_iff.1 (Nat.add_eq_right.1 hlength))
  have hsuffix : wildcard.toList.isSuffixOf (base ++ ".*".toList) = true :=
    List.isSuffixOf_iff_suffix.2 (List.suffix_append base _)
  have htake : (base ++ ".*".toList).take ((base ++ ".*".toList).length - 2) = base := by
    rw [List.length_append]
    exact List.take_left
  rw [expandName, if_neg hne, if_neg hwildcard, if_pos hsuffix, htake]
  refine List.map_congr_left fun suffix _ => String.toList_inj.1 ?_
  simp

/-- A name without the wildcard at its end is a domain itself. -/
theorem expandName_of_not_wildcard {name : List Char} (hne : name ≠ [])
    (hend : ¬ ".*".toList <:+ name) : expandName name = [String.ofList name] := by
  have hwildcard : name ≠ wildcard.toList := fun heq => hend (heq ▸ List.suffix_refl _)
  have hsuffix : ¬ wildcard.toList.isSuffixOf name = true :=
    fun h => hend (List.isSuffixOf_iff_suffix.1 h)
  rw [expandName, if_neg hne, if_neg hwildcard, if_neg hsuffix]

theorem standsFor_expand (name : String) : StandsFor name (expand name) := by
  rw [expand_eq]
  by_cases hnil : plainName name = []
  · rw [hnil]
    exact .nothing (plainName_eq_nil_iff.1 hnil)
  by_cases hend : ".*".toList <:+ plainName name
  · obtain ⟨base, hbase⟩ := hend
    rw [← hbase]
    by_cases hne : base = []
    · subst hne
      exact .suffixes hbase.symm
    · rw [expandName_append hne]
      exact .below hne hbase.symm
  · rw [expandName_of_not_wildcard hnil hend]
    exact .itself (by simpa using plainName_eq_nil_iff.not.1 hnil) hend

/-- **A name stands for just the domains that it is expanded to.** -/
theorem expand_eq_iff {name : String} {domains : List String} :
    expand name = domains ↔ StandsFor name domains := by
  refine ⟨fun h => h ▸ standsFor_expand name, fun h => ?_⟩
  rw [expand_eq]
  cases h with
  | nothing hblank => rw [plainName_eq_nil_iff.2 hblank]; rfl
  | suffixes heq => rw [heq]; rfl
  | below hne heq => rw [heq, expandName_append hne]
  | itself hblank hend =>
    refine expandName_of_not_wildcard (plainName_eq_nil_iff.not.2 ?_) hend
    simpa using hblank

/-! ## Lists of names -/

variable {names : List String}

/-- **A list of names stands for the domains of its names, each at its first place.** -/
theorem resolve_eq_iff {domains : List String} : resolve names = domains ↔
    ∃ expansions, List.Forall₂ StandsFor names expansions ∧
      KeepsFirst expansions.flatten domains := by
  have hstands : StandsFor = fun name domains => expand name = domains :=
    funext fun _ => funext fun _ => propext expand_eq_iff.symm
  have hexpansions (expansions : List (List String)) :
      List.Forall₂ StandsFor names expansions ↔ names.map expand = expansions := by
    rw [hstands, ← List.forall₂_map_left_iff, List.forall₂_eq_eq_eq]
  simp only [hexpansions, exists_eq_left', keepsFirst_iff]
  rfl

/-- Further names add their new domains at the end. -/
theorem resolve_append (names more : List String) : resolve (names ++ more) =
    resolve names ++ (resolve more).filter (· ∉ resolve names) := by
  have hmem (domain : String) : domain ∈ resolve names ↔ domain ∈ names.flatMap expand :=
    List.mem_eraseDups
  simp only [hmem]
  rw [resolve, resolve, resolve, List.flatMap_append, eraseDups_append_eq_filter]
  simp only [List.contains_eq_mem, decide_not]

theorem isDomainChar_of_mem_domainAlphabet :
    ∀ c ∈ domainAlphabet, ListedDomain.isDomainChar c = true :=
  List.all_eq_true.1 (by decide +kernel)

theorem isDomainName_of_isEntryDomain {domain : String} (h : IsEntryDomain domain) :
    IsDomainName domain where
  ne_empty := h.ne_empty
  isDomainChar := fun c hc => isDomainChar_of_mem_domainAlphabet c (h.mem_domainAlphabet c hc)

/-- A domain of an entry stands for itself alone. -/
theorem expand_of_isEntryDomain {domain : String} (h : IsEntryDomain domain) :
    expand domain = [domain] := by
  have hne : domain.toList ≠ [] := fun hnil => h.ne_empty (String.toList_inj.1 hnil)
  rw [expand_eq_expandName (isDomainName_of_isEntryDomain h),
    expandName_of_not_wildcard hne h.not_wildcard, String.ofList_toList]

/-- **To resolve a list of names a second time changes nothing.** -/
theorem resolve_resolve (h : ∀ name ∈ names, ∀ c ∈ name.toList, c ∈ domainAlphabet) :
    resolve (resolve names) = resolve names := by
  have hentry : ∀ domain ∈ resolve names, IsEntryDomain domain := by
    intro domain hdomain
    obtain ⟨name, hname, hexpand⟩ := List.mem_flatMap.1 (List.mem_eraseDups.1 hdomain)
    have hchars : ∀ c ∈ name.toList, ListedDomain.isDomainChar c = true :=
      fun c hc => isDomainChar_of_mem_domainAlphabet c (h name hname c hc)
    refine isEntryDomain_of_mem_expand ⟨?_, hchars⟩ hexpand
    rintro rfl
    exact absurd hexpand List.not_mem_nil
  have hself : (resolve names).flatMap expand = resolve names :=
    calc (resolve names).flatMap expand
        = (resolve names).flatMap fun domain => [domain] :=
          List.flatMap_congr fun domain hdomain => expand_of_isEntryDomain (hentry domain hdomain)
      _ = resolve names := List.flatMap_singleton' _
  calc resolve (resolve names)
      = (resolve names).eraseDups := congrArg List.eraseDups hself
    _ = resolve names := eraseDups_eq_self (nodup_eraseDups _)

/-- **Names are resolved in their order and without repeats**: each of them to what it stands for,
each domain at its first place only.  So what stands behind some names does not matter for them,
and to resolve a list a second time changes nothing. -/
theorem resolve_in_order (names : List String) :
    (resolve names).Nodup ∧
    (∀ domains, resolve names = domains ↔ ∃ expansions,
      List.Forall₂ StandsFor names expansions ∧ KeepsFirst expansions.flatten domains) ∧
    (∀ more, resolve (names ++ more) =
      resolve names ++ (resolve more).filter (· ∉ resolve names)) ∧
    ((∀ name ∈ names, ∀ c ∈ name.toList, c ∈ "abcdefghijklmnopqrstuvwxyz0123456789*.-".toList) →
      resolve (resolve names) = resolve names) :=
  ⟨nodup_eraseDups _, fun _ => resolve_eq_iff, resolve_append names, resolve_resolve⟩

/-- `a.co.*` and `a.*` both stand for `a.co.uk`, and `com` is one of the domains of `.*`. -/
theorem resolve_in_order_of_wildcards :
    (∀ name ∈ ["a.co.*", "", "a.*", ".*", "com"], ∀ c ∈ name.toList,
      c ∈ "abcdefghijklmnopqrstuvwxyz0123456789*.-".toList) ∧
    resolve (resolve ["a.co.*", "", "a.*", ".*", "com"]) =
      resolve ["a.co.*", "", "a.*", ".*", "com"] := by
  have hall : (["a.co.*", "", "a.*", ".*", "com"].all fun name =>
      name.toList.all domainAlphabet.contains) = true := by decide +kernel
  have hnames (name : String) (hname : name ∈ ["a.co.*", "", "a.*", ".*", "com"]) (c : Char)
      (hc : c ∈ name.toList) : c ∈ domainAlphabet :=
    List.contains_iff_mem.1 (List.all_eq_true.1 (List.all_eq_true.1 hall name hname) c hc)
  exact ⟨hnames, (resolve_in_order _).2.2.2 hnames⟩

end ContentBlocker.Domain
