import ContentBlocker.Domain.Scope
import ContentBlocker.Proofs.FirstOccurrences
import ContentBlocker.Rule.DomainList
import ContentBlocker.UrlPattern.Host

/-!
# Names of domains, from a rule to an entry

The domains of an entry come from names in a rule.  A name that a rule may have (`IsDomainName`) is
in lower case and has no blanks around it, so it stands for the domains of its text as it is: for
itself, or for one domain below each public suffix.  In either case these are names again, there is
at least one, and none of them ends in the wildcard (`isEntryDomain_of_mem_expand`).  So a list of
names stands for a list of domains that is not empty, has no repeats, and holds only names without
a wildcard at the end (`isDomainList_resolve`).
-/

set_option autoImplicit false
namespace ContentBlocker

open ListedDomain (isDomainChar)

/-! ## Characters of a name -/

theorem toNat_of_isDomainChar {c : Char} (h : isDomainChar c = true) :
    c.toNat = 0x2a ∨ c.toNat = 0x2d ∨ c.toNat = 0x2e ∨ (0x30 ≤ c.toNat ∧ c.toNat ≤ 0x39) ∨
      (0x61 ≤ c.toNat ∧ c.toNat ≤ 0x7a) := by
  simp only [isDomainChar, Bool.or_eq_true, Bool.and_eq_true, decide_eq_true_eq, beq_iff_eq] at h
  rcases h with (((⟨hle, hge⟩ | ⟨hle, hge⟩) | rfl) | rfl) | rfl
  · exact .inr (.inr (.inr (.inr ⟨hle, hge⟩)))
  · exact .inr (.inr (.inr (.inl ⟨hle, hge⟩)))
  · exact .inl rfl
  · exact .inr (.inr (.inl rfl))
  · exact .inr (.inl rfl)

theorem isBlank_of_isDomainChar {c : Char} (h : isDomainChar c = true) :
    Text.isBlank c = false := by
  have hc := toNat_of_isDomainChar h
  simp only [Text.isBlank, Bool.or_eq_false_iff, Bool.and_eq_false_iff, decide_eq_false_iff_not,
    beq_eq_false_iff_ne, ne_eq]
  omega

theorem toLower_of_isDomainChar {c : Char} (h : isDomainChar c = true) : c.toLower = c := by
  have hc := toNat_of_isDomainChar h
  have hupper : ¬ (c.val ≥ 'A'.val ∧ c.val ≤ 'Z'.val) := by
    rintro ⟨hge, hle⟩
    have hge : 0x41 ≤ c.toNat := hge
    have hle : c.toNat ≤ 0x5a := hle
    omega
  exact dif_neg hupper

theorem isDomainChar_of_isLabelChar {c : Char} (h : HostPattern.isLabelChar c = true) :
    isDomainChar c = true := by
  simp only [HostPattern.isLabelChar, isDomainChar, Bool.or_eq_true] at h ⊢
  rcases h with (h | h) | h <;> simp [h]

theorem lowerChars_of_isDomainChar {s : List Char} (h : ∀ c ∈ s, isDomainChar c = true) :
    Text.lowerChars s = s := by
  have hascii : ∀ c ∈ s, c.toNat < 0x80 := by
    intro c hc
    have := toNat_of_isDomainChar (h c hc)
    omega
  rw [Text.lowerChars_of_ascii hascii,
    List.map_congr_left fun c hc => toLower_of_isDomainChar (h c hc), List.map_id']

theorem trimChars_of_isDomainChar {s : List Char} (h : ∀ c ∈ s, isDomainChar c = true) :
    Text.trimChars s = s :=
  Text.trimChars_eq_self (fun c hc => isBlank_of_isDomainChar (h c (List.mem_of_head? hc)))
    fun c hc => isBlank_of_isDomainChar (h c (List.mem_of_getLast? hc))

/-! ## Names -/

/-- A name of a domain or of several, as a rule may have it. -/
structure IsDomainName (name : String) : Prop where
  ne_empty : name ≠ ""
  isDomainChar : ∀ c ∈ name.toList, ListedDomain.isDomainChar c = true

instance (name : String) : Decidable (IsDomainName name) :=
  decidable_of_iff (name ≠ "" ∧ name.toList.all isDomainChar = true)
    ⟨fun h => ⟨h.1, List.all_eq_true.1 h.2⟩,
      fun h => ⟨h.ne_empty, List.all_eq_true.2 h.isDomainChar⟩⟩

/-- The characters that a domain of an entry is made of. -/
def domainAlphabet : List Char :=
  "abcdefghijklmnopqrstuvwxyz0123456789*.-".toList

/-- A name of a domain as an entry may have it: with no wildcard at its end. -/
structure IsEntryDomain (name : String) : Prop where
  ne_empty : name ≠ ""
  mem_domainAlphabet : ∀ c ∈ name.toList, c ∈ domainAlphabet
  not_wildcard : ¬ ".*".toList <:+ name.toList

/-- The domains of an entry. -/
structure IsDomainList (names : List String) : Prop where
  ne_nil : names ≠ []
  nodup : names.Nodup
  isEntryDomain : ∀ name ∈ names, IsEntryDomain name

theorem mem_domainAlphabet_of_isDomainChar {c : Char} (h : isDomainChar c = true) :
    c ∈ domainAlphabet := by
  have hascii : c.toNat < 0x80 := by
    have := toNat_of_isDomainChar h
    omega
  have hall : ∀ n < 0x80, isDomainChar (Char.ofNat n) = true → Char.ofNat n ∈ domainAlphabet := by
    decide +kernel
  have hc := hall c.toNat hascii
  rw [Char.ofNat_toNat] at hc
  exact hc h

/-- A name is one of an entry unless it ends in the wildcard. -/
theorem IsDomainName.isEntryDomain {name : String} (h : IsDomainName name)
    (hend : ¬ Domain.wildcard.toList <:+ name.toList) : IsEntryDomain name where
  ne_empty := h.ne_empty
  mem_domainAlphabet := fun c hc => mem_domainAlphabet_of_isDomainChar (h.isDomainChar c hc)
  not_wildcard := hend

namespace ListedDomain

theorem isDomainName_of_ofName {restricted : Bool} {s : List Char} {d : ListedDomain}
    (h : ofName restricted s = .ok d) : IsDomainName d.name := by
  rw [ofName] at h
  split at h
  · rename_i hname
    cases h
    rw [Bool.and_eq_true, Bool.not_eq_true', List.isEmpty_eq_false_iff, List.all_eq_true] at hname
    refine ⟨fun hempty => hname.1 ?_, by rw [String.toList_ofList]; exact hname.2⟩
    rw [← String.toList_ofList (l := Text.lowerChars s)]
    exact congrArg String.toList hempty
  · cases h

theorem isDomainName_of_ofChars {s : List Char} {d : ListedDomain} (h : ofChars s = .ok d) :
    IsDomainName d.name := by
  rw [ofChars.eq_def] at h
  split at h
  · exact isDomainName_of_ofName h
  · exact isDomainName_of_ofName h

end ListedDomain

/-- What texts joined by a separator are made of. -/
theorem mem_intercalate {c : Char} {separator : List Char} {texts : List (List Char)}
    (h : c ∈ separator.intercalate texts) : c ∈ separator ∨ ∃ s ∈ texts, c ∈ s := by
  induction texts with
  | nil => exact absurd h List.not_mem_nil
  | cons s texts ih =>
    by_cases hne : texts = []
    · rw [hne, List.intercalate_singleton] at h
      exact .inr ⟨s, List.mem_cons_self, h⟩
    · rw [List.intercalate_cons_of_ne_nil hne, List.mem_append, List.mem_append] at h
      rcases h with (h | h) | h
      · exact .inr ⟨s, List.mem_cons_self, h⟩
      · exact .inl h
      · refine (ih h).imp id ?_
        rintro ⟨t, ht, hc⟩
        exact ⟨t, List.mem_cons_of_mem s ht, hc⟩

namespace HostPattern

theorem isDomainChar_of_isHost {s : List Char} (h : isHost s = true) :
    ∀ c ∈ s, isDomainChar c = true := by
  rw [isHost, Bool.and_eq_true, List.all_eq_true] at h
  intro c hc
  have hjoined : ['.'].intercalate (s.splitOn '.') = s := List.intercalate_splitOn '.'
  rw [← hjoined] at hc
  rcases mem_intercalate hc with hdot | ⟨label, hlabel, hmem⟩
  · rw [List.mem_singleton.1 hdot]
    rfl
  · have hall := h.2 label hlabel
    rw [isLabel, Bool.and_eq_true, List.all_eq_true] at hall
    exact isDomainChar_of_isLabelChar (hall.2 c hmem)

/-- The host of a pattern is a name. -/
theorem isDomainName_host {pattern : String} {p : HostPattern}
    (h : ofPattern? pattern = some p) : IsDomainName p.host := by
  rw [ofPattern?] at h
  split at h
  · cases h
  · obtain ⟨hhost, hp⟩ := Option.ite_none_right_eq_some.1 h
    cases hp
    refine ⟨fun hempty => ?_, by rw [String.toList_ofList]; exact isDomainChar_of_isHost hhost⟩
    have hnil := congrArg String.toList hempty
    rw [String.toList_ofList] at hnil
    rw [hnil] at hhost
    cases hhost

end HostPattern

/-! ## What names stand for -/

namespace Domain

theorem expand_eq_expandName {name : String} (h : IsDomainName name) :
    expand name = expandName name.toList := by
  rw [expand, trimChars_of_isDomainChar h.isDomainChar, lowerChars_of_isDomainChar h.isDomainChar]

theorem isDomainName_of_mem_suffixes : ∀ suffix ∈ suffixes, IsDomainName suffix := by
  have hall : suffixes.all (fun suffix =>
      suffix != "" && suffix.toList.all isDomainChar) = true := by decide +kernel
  intro suffix h
  have hsuffix := List.all_eq_true.1 hall suffix h
  rw [Bool.and_eq_true, bne_iff_ne, List.all_eq_true] at hsuffix
  exact ⟨hsuffix.1, hsuffix.2⟩

theorem getLast?_ne_of_mem_suffixes : ∀ suffix ∈ suffixes, suffix.toList.getLast? ≠ some '*' := by
  decide +kernel

/-- What does not end in the last character of the wildcard does not end in the wildcard. -/
theorem not_wildcard_suffix {s : List Char} (h : s.getLast? ≠ some '*') :
    ¬ wildcard.toList <:+ s := by
  rintro ⟨before, rfl⟩
  exact h (by rw [List.getLast?_append]; rfl)

theorem isEntryDomain_below {base : List Char} (hbase : ∀ c ∈ base, isDomainChar c = true)
    {suffix : String} (h : suffix ∈ suffixes) :
    IsEntryDomain (String.ofList (base ++ '.' :: suffix.toList)) := by
  have hsuffix := isDomainName_of_mem_suffixes suffix h
  have hne : suffix.toList ≠ [] := fun hnil => hsuffix.ne_empty (String.toList_inj.1 hnil)
  refine IsDomainName.isEntryDomain ⟨fun hempty => ?_, fun c hc => ?_⟩ ?_
  · have hnil := congrArg String.toList hempty
    simp at hnil
  · rw [String.toList_ofList, List.mem_append, List.mem_cons] at hc
    rcases hc with hc | rfl | hc
    · exact hbase c hc
    · rfl
    · exact hsuffix.isDomainChar c hc
  · rw [String.toList_ofList]
    refine not_wildcard_suffix fun hlast => getLast?_ne_of_mem_suffixes suffix h ?_
    rwa [List.append_cons, List.getLast?_append, List.getLast?_eq_some_getLast hne,
      Option.some_or, ← List.getLast?_eq_some_getLast] at hlast

theorem expand_ne_nil {name : String} (h : IsDomainName name) : expand name ≠ [] := by
  have hne : name.toList ≠ [] := fun hnil => h.ne_empty (String.toList_inj.1 hnil)
  rw [expand_eq_expandName h, expandName, if_neg hne]
  split
  · exact List.cons_ne_nil _ _
  · split
    · exact List.cons_ne_nil _ _
    · exact List.cons_ne_nil _ _

/-- **A name stands for names without a wildcard at their end.** -/
theorem isEntryDomain_of_mem_expand {name d : String} (h : IsDomainName name)
    (hd : d ∈ expand name) : IsEntryDomain d := by
  have hne : name.toList ≠ [] := fun hnil => h.ne_empty (String.toList_inj.1 hnil)
  rw [expand_eq_expandName h, expandName, if_neg hne] at hd
  split at hd
  · exact (isDomainName_of_mem_suffixes d hd).isEntryDomain
      (not_wildcard_suffix (getLast?_ne_of_mem_suffixes d hd))
  · split at hd
    · obtain ⟨suffix, hsuffix, rfl⟩ := List.mem_map.1 hd
      exact isEntryDomain_below (fun c hc => h.isDomainChar c (List.mem_of_mem_take hc)) hsuffix
    · rename_i hend
      obtain rfl := List.mem_singleton.1 hd
      rw [String.ofList_toList]
      exact h.isEntryDomain fun hsuffix => hend (List.isSuffixOf_iff_suffix.2 hsuffix)

/-- **A list of names stands for the domains of an entry.** -/
theorem isDomainList_resolve {names : List String} (hne : names ≠ [])
    (h : ∀ name ∈ names, IsDomainName name) : IsDomainList (resolve names) where
  ne_nil := by
    obtain ⟨name, hname⟩ := List.exists_mem_of_ne_nil names hne
    obtain ⟨d, hd⟩ := List.exists_mem_of_ne_nil _ (expand_ne_nil (h name hname))
    exact eraseDups_ne_nil (List.ne_nil_of_mem (List.mem_flatMap.2 ⟨name, hname, hd⟩))
  nodup := nodup_eraseDups _
  isEntryDomain := by
    intro d hd
    rw [resolve, List.mem_eraseDups, List.mem_flatMap] at hd
    obtain ⟨name, hname, hd⟩ := hd
    exact isEntryDomain_of_mem_expand (h name hname) hd

end Domain
end ContentBlocker
