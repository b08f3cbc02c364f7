import ContentBlocker.Proofs.Allowlist.EntryEdit

/-!
# A content blocker of sites is a list of sites

A content blocker that is made from nothing by rules for sites alone can be thought of as the list
of those sites: a rule that is added goes to the end of the list, and one that is removed leaves it.
`Represents` says that a content blocker has the text and the counts that go with a list, and
`Follows` that an edit comes to the same for both.  Each edit does (`Represents.apply`), and so does
any number of them (`Represents.run`).

What an edit does to the list is told by `SiteEdit.applyTo`, in which there is no text.
-/

set_option autoImplicit false
namespace ContentBlocker

open Text (occursIn)

/-! ## Lists of sites -/

/-- A site, and where the blocker is off for it. -/
structure ListedSite where
  kind : AllowKind
  domain : String
  deriving DecidableEq

namespace ListedSite

/-- The rule for a site. -/
def ruleText (site : ListedSite) : String :=
  site.kind.ruleText site.domain

/-- The entry of the rule for a site. -/
def entry (site : ListedSite) : Entry :=
  site.kind.siteEntry site.domain

end ListedSite

/-- Adding the rule for a site, or removing it. -/
inductive SiteEdit where
  | add (site : ListedSite)
  | remove (site : ListedSite)

namespace SiteEdit

/-- The site that an edit is about. -/
def site : SiteEdit → ListedSite
  | .add site => site
  | .remove site => site

/-- What an edit does to a list of sites: no site is listed twice, and only a listed one can be
removed. -/
def applyTo (sites : List ListedSite) : SiteEdit → Except EditError (List ListedSite)
  | .add site => if site ∈ sites then .error (.present site.ruleText) else .ok (sites ++ [site])
  | .remove site => if site ∈ sites then .ok (sites.erase site) else .error (.absent site.ruleText)

/-- What an edit does to a content blocker. -/
def apply (b : Blocker) : SiteEdit → Except EditError Blocker
  | .add site => b.add site.kind site.domain
  | .remove site => b.remove site.kind site.domain

end SiteEdit

/-- A list of sites after some edits.  One that is refused changes nothing. -/
def sitesAfter (sites : List ListedSite) (edits : List SiteEdit) : List ListedSite :=
  edits.foldl (fun sites edit => (edit.applyTo sites).toOption.getD sites) sites

/-- A content blocker after some edits.  One that is refused changes nothing. -/
def Blocker.after (b : Blocker) (edits : List SiteEdit) : Blocker :=
  edits.foldl (fun b edit => (edit.apply b).toOption.getD b) b

/-- The entries of a content blocker with the rules for some sites. -/
def listedEntries (sites : List ListedSite) : List Entry :=
  if sites = [] then [placeholderEntry] else sites.map ListedSite.entry

/-- A content blocker has the text and the counts of a list of sites. -/
structure Represents (b : Blocker) (sites : List ListedSite) : Prop where
  nodup : sites.Nodup
  isSite : ∀ site ∈ sites, IsSite site.domain
  text : b.text = if sites = [] then placeholder else serializeEntries (sites.map ListedSite.entry)
  count : b.count = sites.length
  total : b.total = sites.length

/-- What comes of an edit of a content blocker and of the same edit of a list: both are refused, for
the same reason, or the new content blocker has the text and the counts of the new list. -/
inductive Follows : Except EditError Blocker → Except EditError (List ListedSite) → Prop
  | refused (err : EditError) : Follows (.error err) (.error err)
  | done {b : Blocker} {sites : List ListedSite} (h : Represents b sites) :
    Follows (.ok b) (.ok sites)

/-! ## Entries of sites -/

theorem ListedSite.entry_inj {site site' : ListedSite} : site.entry = site'.entry ↔ site = site' := by
  refine ⟨fun h => ?_, fun h => h ▸ rfl⟩
  obtain ⟨hkind, hdomain⟩ := AllowKind.siteEntry_injective h
  cases site
  cases site'
  rw [ListedSite.mk.injEq]
  exact ⟨hkind, hdomain⟩

theorem ListedSite.entryText_eq {site : ListedSite} (h : IsSite site.domain) :
    entryText site.ruleText = .ok site.entry.serialize.toList :=
  AllowKind.entryText_ruleText h site.kind

theorem mem_listedEntries {site : ListedSite} {sites : List ListedSite} :
    site.entry ∈ listedEntries sites ↔ site ∈ sites := by
  rw [listedEntries]
  split
  · rename_i h
    rw [h, List.mem_singleton]
    exact iff_of_false (AllowKind.siteEntry_ne_placeholderEntry _ _) List.not_mem_nil
  · rw [List.mem_map]
    constructor
    · rintro ⟨site', hsite', h⟩
      exact ListedSite.entry_inj.1 h ▸ hsite'
    · exact fun h => ⟨site, h, rfl⟩

/-! ## Commas in the entries of sites -/

theorem UrlPattern.comma_not_mem_toFilter {pattern : String} (h : ',' ∉ pattern.toList) :
    ',' ∉ (toFilter pattern).toList := by
  have hchar (c : Char) (hc : c ≠ ',') : ',' ∉ charFilter c := by
    rw [charFilter]
    split
    · decide
    · split
      · decide
      · split <;> simp [hc.symm]
  rw [← chars_ofChars pattern.toList, chars] at h
  rw [toFilter, String.toList_ofList, filterChars]
  simp only [List.mem_append, not_or] at h ⊢
  refine ⟨⟨?_, ?_⟩, ?_⟩
  · cases (ofChars pattern.toList).start <;> decide
  · rw [List.mem_flatMap]
    rintro ⟨c, hc, hmem⟩
    refine hchar c ?_ hmem
    rintro rfl
    exact h.1.2 hc
  · split <;> decide

/-- Commas stand in the entry of a site between its strings only. -/
theorem AllowKind.squeezed_siteEntry (kind : AllowKind) {domain : String} (h : IsSite domain) :
    (kind.siteEntry domain).squeezed = kind.siteEntry domain := by
  have hdomain : squeezeText domain = domain := squeezeText_eq_self (h.not_mem rfl)
  cases kind with
  | onSite =>
    have hpattern : ',' ∉ (pattern .onSite domain).toList := by
      rw [toList_pattern]
      exact List.not_mem_cons_of_ne_of_not_mem (by decide) <|
        List.not_mem_cons_of_ne_of_not_mem (by decide) (h.not_mem rfl)
    have hfilter := squeezeText_eq_self (UrlPattern.comma_not_mem_toFilter hpattern)
    rw [siteEntry, Entry.squeezed, Trigger.squeezed, hfilter]
    cases HostPattern.isHost domain.toList <;> simp [hdomain, Action.squeezed]
  | offSite =>
    have hfilter : squeezeText anyUrlFilter = anyUrlFilter := squeezeText_eq_self (by decide)
    simp [siteEntry, Entry.squeezed, Trigger.squeezed, Action.squeezed, hfilter, hdomain]

/-- The repair of commas does not change the text of sites. -/
theorem squeezeCommas_sites {sites : List ListedSite} (h : ∀ site ∈ sites, IsSite site.domain) :
    squeezeCommas (serializeEntries (sites.map ListedSite.entry)).toList =
      (serializeEntries (sites.map ListedSite.entry)).toList := by
  rw [squeezeCommas_serializeEntries, List.map_map]
  congr 2
  exact List.map_congr_left fun site hsite => site.kind.squeezed_siteEntry (h site hsite)

namespace Represents

variable {b : Blocker} {sites : List ListedSite} (h : Represents b sites)
include h

theorem text_eq : b.text = serializeEntries (listedEntries sites) := by
  rw [h.text, listedEntries]
  split <;> rfl

theorem isEmpty_iff : b.isEmpty = true ↔ sites = [] := by
  rw [Blocker.isEmpty, Bool.or_eq_true, beq_iff_eq, beq_iff_eq, h.count]
  constructor
  · rintro (hcount | htext)
    · exact List.length_eq_zero_iff.1 (by omega)
    · rw [h.text_eq, placeholder] at htext
      have hentries := serializeEntries_injective htext
      rw [listedEntries] at hentries
      split at hentries
      · assumption
      · obtain ⟨site, -, hsite⟩ := List.mem_map.1 (hentries ▸ List.mem_singleton_self _)
        exact absurd hsite (AllowKind.siteEntry_ne_placeholderEntry _ _)
  · rintro rfl
    exact .inl rfl

/-- A site on the list stands between others, and its entry is not among theirs. -/
theorem exists_split {site : ListedSite} (hmem : site ∈ sites) :
    ∃ front back, sites.erase site = front ++ back ∧
      site.entry ∉ front.map ListedSite.entry ∧ site.entry ∉ back.map ListedSite.entry ∧
      b.text = serializeEntries
        (front.map ListedSite.entry ++ site.entry :: back.map ListedSite.entry) := by
  obtain ⟨front, back, rfl⟩ := List.append_of_mem hmem
  have hnodup := h.nodup
  rw [List.nodup_append, List.nodup_cons] at hnodup
  obtain ⟨-, ⟨hback, -⟩, hfront⟩ := hnodup
  have hfront : site ∉ front := fun hd => hfront site hd site List.mem_cons_self rfl
  have hentry {ds : List ListedSite} (hd : site ∉ ds) : site.entry ∉ ds.map ListedSite.entry := by
    rw [List.mem_map]
    rintro ⟨d, hmem, heq⟩
    exact hd (ListedSite.entry_inj.1 heq ▸ hmem)
  refine ⟨front, back, ?_, hentry hfront, hentry hback, ?_⟩
  · rw [List.erase_append_right _ hfront, List.erase_cons_head]
  · rw [h.text, if_neg (by simp), List.map_append, List.map_cons]

/-! ## One edit -/

section
variable {site : ListedSite} (hsite : IsSite site.domain)
include hsite

theorem add_eq_error (hmem : site ∈ sites) :
    b.add site.kind site.domain = .error (.present site.ruleText) :=
  (Blocker.addRule_eq_error_iff (ListedSite.entryText_eq hsite) h.text_eq).2
    (mem_listedEntries.2 hmem)

theorem remove_eq_error (hmem : site ∉ sites) :
    b.remove site.kind site.domain = .error (.absent site.ruleText) :=
  (Blocker.removeRule_eq_error_iff (ListedSite.entryText_eq hsite) h.text_eq).2
    fun hentry => hmem (mem_listedEntries.1 hentry)

/-- What is added goes to the end of the list. -/
theorem add_eq_ok (hmem : site ∉ sites) :
    ∃ b', b.add site.kind site.domain = .ok b' ∧ Represents b' (sites ++ [site]) := by
  have hnodup : (sites ++ [site]).Nodup := by
    rw [List.nodup_append]
    refine ⟨h.nodup, by simp, fun d hd d' hd' heq => hmem ?_⟩
    rwa [← List.mem_singleton.1 hd', ← heq]
  have hsites : ∀ d ∈ sites ++ [site], IsSite d.domain := by
    intro d hd
    rcases List.mem_append.1 hd with hd | hd
    · exact h.isSite d hd
    · rw [List.mem_singleton.1 hd]
      exact hsite
  have htotal : b.total + 1 = ((sites ++ [site]).length : Int) := by
    rw [h.total, List.length_append, List.length_singleton, Int.natCast_add]
    rfl
  have hlisted : listedEntries sites ≠ [] := by
    rw [listedEntries]
    split <;> simp [*]
  have hne : sites ++ [site] ≠ [] := by simp
  refine ⟨_, Blocker.addRule_eq_ok (ListedSite.entryText_eq hsite) h.text_eq hlisted
    (mt mem_listedEntries.1 hmem), ?_⟩
  by_cases hempty : sites = []
  · rw [if_pos (h.isEmpty_iff.2 hempty)]
    subst hempty
    exact ⟨hnodup, hsites, rfl, rfl, htotal⟩
  · rw [if_neg (mt h.isEmpty_iff.1 hempty), listedEntries, if_neg hempty]
    refine ⟨hnodup, hsites, ?_, ?_, htotal⟩
    · rw [if_neg hne, List.map_append, List.map_singleton]
    · rw [← htotal, h.count, h.total]

/-- What is removed leaves the list, and the others stay in their order. -/
theorem remove_eq_ok (hmem : site ∈ sites) :
    ∃ b', b.remove site.kind site.domain = .ok b' ∧ Represents b' (sites.erase site) := by
  have hnodup : (sites.erase site).Nodup := h.nodup.erase site
  have hsites : ∀ d ∈ sites.erase site, IsSite d.domain :=
    fun d hd => h.isSite d (List.mem_of_mem_erase hd)
  have hlength : ((sites.erase site).length : Int) = sites.length - 1 := by
    have hpos := List.length_pos_of_mem hmem
    rw [List.length_erase_of_mem hmem]
    omega
  obtain ⟨front, back, herase, hfront, hback, htext⟩ := h.exists_split hmem
  have hentries : front.map ListedSite.entry ++ back.map ListedSite.entry =
      (sites.erase site).map ListedSite.entry := by
    rw [herase, List.map_append]
  refine ⟨_, Blocker.removeRule_eq_ok (ListedSite.entryText_eq hsite) htext hfront hback, ?_⟩
  rw [hentries, squeezeCommas_sites hsites, String.ofList_toList]
  by_cases hempty : sites.erase site = []
  · rw [if_pos (List.map_eq_nil_iff.2 hempty)]
    refine ⟨hnodup, hsites, ?_, ?_, ?_⟩
    · rw [if_pos hempty]
    · rw [hempty]
      rfl
    · rw [h.total, ← hlength, hempty]
      rfl
  · rw [if_neg (mt List.map_eq_nil_iff.1 hempty)]
    refine ⟨hnodup, hsites, ?_, ?_, ?_⟩
    · rw [if_neg hempty]
    · rw [h.count, hlength]
    · rw [h.total, hlength]

end

/-- **An edit does to the content blocker what it does to the list**, and is refused where it is
refused there. -/
theorem apply (edit : SiteEdit) (hsite : IsSite edit.site.domain) :
    Follows (edit.apply b) (edit.applyTo sites) := by
  cases edit with
  | add site =>
    have hsite : IsSite site.domain := hsite
    rw [SiteEdit.apply, SiteEdit.applyTo]
    by_cases hmem : site ∈ sites
    · rw [h.add_eq_error hsite hmem, if_pos hmem]
      exact .refused _
    · obtain ⟨b', hb', h'⟩ := h.add_eq_ok hsite hmem
      rw [hb', if_neg hmem]
      exact .done h'
  | remove site =>
    have hsite : IsSite site.domain := hsite
    rw [SiteEdit.apply, SiteEdit.applyTo]
    by_cases hmem : site ∈ sites
    · obtain ⟨b', hb', h'⟩ := h.remove_eq_ok hsite hmem
      rw [hb', if_pos hmem]
      exact .done h'
    · rw [h.remove_eq_error hsite hmem, if_neg hmem]
      exact .refused _

/-- A refused edit changes nothing, so the content blocker still has the text of the list. -/
theorem getD {edited : Except EditError Blocker} {editedSites : Except EditError (List ListedSite)}
    (hfollows : Follows edited editedSites) :
    Represents (edited.toOption.getD b) (editedSites.toOption.getD sites) := by
  cases hfollows with
  | refused _ => exact h
  | done h' => exact h'

omit h in
/-- **Any number of edits does the same to both.** -/
theorem run {edits : List SiteEdit} (hsites : ∀ edit ∈ edits, IsSite edit.site.domain)
    (h : Represents b sites) : Represents (b.after edits) (sitesAfter sites edits) := by
  induction edits generalizing b sites with
  | nil => exact h
  | cons edit edits ih =>
    refine ih (fun edit' hedit' => hsites edit' (List.mem_cons_of_mem edit hedit')) ?_
    exact h.getD (h.apply edit (hsites edit List.mem_cons_self))

end Represents

/-! ## Edits of the empty content blocker -/

theorem blocker_empty : ConversionResult.empty.blocker = ⟨placeholder, 0, 0⟩ := by
  have hentries : (Sorting.ofRules false FilterList.empty.rules).entries = [] := rfl
  simp only [ConversionResult.blocker, ConversionResult.empty, ConversionResult.ofList,
    ConversionResult.ofSorting, hentries, List.take_nil, List.isEmpty_nil, if_true,
    List.length_nil]
  rfl

theorem represents_empty : Represents ConversionResult.empty.blocker [] := by
  rw [blocker_empty]
  exact ⟨List.nodup_nil, fun _ hmem => (nomatch hmem), rfl, rfl, rfl⟩

section
variable (sites : List ListedSite) (edits : List SiteEdit)

theorem sitesAfter_concat (edit : SiteEdit) : sitesAfter sites (edits ++ [edit]) =
    (edit.applyTo (sitesAfter sites edits)).toOption.getD (sitesAfter sites edits) := by
  rw [sitesAfter, List.foldl_append, ← sitesAfter]
  rfl

theorem sitesAfter_add (site : ListedSite) : sitesAfter sites (edits ++ [.add site]) =
    if site ∈ sitesAfter sites edits then sitesAfter sites edits
    else sitesAfter sites edits ++ [site] := by
  rw [sitesAfter_concat, SiteEdit.applyTo]
  split <;> rfl

theorem sitesAfter_remove (site : ListedSite) :
    sitesAfter sites (edits ++ [.remove site]) = (sitesAfter sites edits).erase site := by
  rw [sitesAfter_concat, SiteEdit.applyTo]
  split
  · rfl
  · rename_i hmem
    exact (List.erase_of_not_mem hmem).symm

end

theorem Blocker.after_concat_of_ok {b b' : Blocker} {edits : List SiteEdit} {edit : SiteEdit}
    (h : edit.apply (b.after edits) = .ok b') : b.after (edits ++ [edit]) = b' := by
  rw [after, List.foldl_append, ← after]
  show (edit.apply (b.after edits)).toOption.getD (b.after edits) = b'
  rw [h]
  rfl

/-- **Editing the empty content blocker is editing a list of sites.**  After any edits the content
blocker has the entries of the sites of a list in their order, each once, and its counts are the
length of the list.  The next edit is refused exactly if it adds a site that is listed or removes
one that is not; otherwise the site goes to the end of the list, or leaves it. -/
theorem edits_follow_list (edits : List SiteEdit)
    (hsites : ∀ edit ∈ edits, IsSite edit.site.domain) :
    let b := ConversionResult.empty.blocker.after edits
    let sites := sitesAfter [] edits
    sites.Nodup ∧
      b.text = (if sites = [] then placeholder
        else serializeEntries (sites.map ListedSite.entry)) ∧
      b.count = sites.length ∧ b.total = sites.length ∧
      (∀ site ∈ sites, entryText site.ruleText = .ok site.entry.serialize.toList) ∧
      ∀ site : ListedSite, IsSite site.domain →
        (site ∈ sites →
          b.add site.kind site.domain = .error (.present site.ruleText) ∧
          sitesAfter [] (edits ++ [.add site]) = sites ∧
          b.remove site.kind site.domain =
            .ok (ConversionResult.empty.blocker.after (edits ++ [.remove site])) ∧
          sitesAfter [] (edits ++ [.remove site]) = sites.erase site) ∧
        (site ∉ sites →
          b.add site.kind site.domain =
            .ok (ConversionResult.empty.blocker.after (edits ++ [.add site])) ∧
          sitesAfter [] (edits ++ [.add site]) = sites ++ [site] ∧
          b.remove site.kind site.domain = .error (.absent site.ruleText) ∧
          sitesAfter [] (edits ++ [.remove site]) = sites) := by
  intro b sites
  have h : Represents b sites := represents_empty.run hsites
  refine ⟨h.nodup, h.text, h.count, h.total,
    fun site hsite => ListedSite.entryText_eq (h.isSite site hsite), fun site hsite => ⟨?_, ?_⟩⟩
  · intro hmem
    obtain ⟨b', hb', -⟩ := h.remove_eq_ok hsite hmem
    have hremove : SiteEdit.apply b (.remove site) = .ok b' := hb'
    refine ⟨h.add_eq_error hsite hmem, ?_, ?_, ?_⟩
    · rw [sitesAfter_add, if_pos hmem]
    · rw [Blocker.after_concat_of_ok hremove, hb']
    · rw [sitesAfter_remove]
  · intro hmem
    obtain ⟨b', hb', -⟩ := h.add_eq_ok hsite hmem
    have hadd : SiteEdit.apply b (.add site) = .ok b' := hb'
    refine ⟨?_, ?_, h.remove_eq_error hsite hmem, ?_⟩
    · rw [Blocker.after_concat_of_ok hadd, hb']
    · rw [sitesAfter_add, if_neg hmem]
    · rw [sitesAfter_remove, List.erase_of_not_mem hmem]

/-- A site is added and another one, the first is refused when it is added again, and removed. -/
def editsOfTwoSites : List SiteEdit :=
  [.add ⟨.onSite, "example.org"⟩, .add ⟨.offSite, "a-b.c"⟩, .add ⟨.onSite, "example.org"⟩,
    .remove ⟨.onSite, "example.org"⟩]

theorem edits_follow_list_of_two_sites :
    (∀ edit ∈ editsOfTwoSites, IsSite edit.site.domain) ∧
      (ConversionResult.empty.blocker.after editsOfTwoSites).count = 1 ∧
      (ConversionResult.empty.blocker.after editsOfTwoSites).text =
        serializeEntries [AllowKind.offSite.siteEntry "a-b.c"] := by
  have hsites : ∀ edit ∈ editsOfTwoSites, IsSite edit.site.domain := by
    have horg : IsSite "example.org" := by decide
    have hc : IsSite "a-b.c" := by decide
    intro edit hedit
    simp only [editsOfTwoSites, List.mem_cons, List.not_mem_nil, or_false] at hedit
    rcases hedit with rfl | rfl | rfl | rfl
    · exact horg
    · exact hc
    · exact horg
    · exact horg
  have hlist : sitesAfter [] editsOfTwoSites = [⟨.offSite, "a-b.c"⟩] := by decide
  obtain ⟨-, htext, hcount, -⟩ := edits_follow_list editsOfTwoSites hsites
  rw [hlist] at htext hcount
  rw [if_neg (List.cons_ne_nil _ _)] at htext
  exact ⟨hsites, hcount, htext⟩

end ContentBlocker
