import Mathlib.Data.List.Basic
import ContentBlocker.UrlPattern.Host

/-!
# The host of a pattern, told by what stands where

A name of a host is two or more labels joined by full stops (`HostName`), and what is taken for one
is such a name and nothing else (`HostName.isHost_iff`).

A pattern that is about one host is what it begins with, the name of the host, and a rest that is
empty or starts with one of the characters that end a name (`HostPattern.IsSplit`).  There is at
most one way to take a pattern apart so (`HostPattern.IsSplit.unique`): the list of what such a
pattern may begin with is gone through in order, and no character of the name can start the rest.
`HostPattern.ofPattern?` finds it wherever there is one (`HostPattern.ofPattern?_eq_some_iff`).

Only the name is looked at in lower case, so a letter outside ASCII is accepted in it if its
lower-case form is a letter of ASCII, and the rest is kept as it is.
-/

set_option autoImplicit false
namespace ContentBlocker

/-! ## Names of hosts -/

/-- A name of a host: two or more labels, to be joined by full stops. -/
structure HostName where
  labels : List (List Char)
  two_le_length : 2 ≤ labels.length
  ne_nil : ∀ label ∈ labels, label ≠ []
  isLabelChar : ∀ label ∈ labels, ∀ c ∈ label, HostPattern.isLabelChar c = true

namespace HostName

variable (host : HostName)

/-- The name as it is written. -/
def text : String :=
  String.ofList (['.'].intercalate host.labels)

theorem labels_ne_nil : host.labels ≠ [] := by
  intro hnil
  have hlength := host.two_le_length
  rw [hnil] at hlength
  exact absurd hlength (by decide)

theorem isHost_text : HostPattern.isHost host.text.toList = true := by
  have hdot : ∀ label ∈ host.labels, '.' ∉ label := by
    intro label hlabel hmem
    exact absurd (host.isLabelChar label hlabel '.' hmem) (by decide)
  have hsplit : (['.'].intercalate host.labels).splitOn '.' = host.labels :=
    List.splitOn_intercalate '.' hdot host.labels_ne_nil
  rw [text, String.toList_ofList, HostPattern.isHost, hsplit]
  simp only [Bool.and_eq_true, decide_eq_true_eq, List.all_eq_true]
  refine ⟨host.two_le_length, fun label hlabel => ?_⟩
  simpa [HostPattern.isLabel, host.ne_nil label hlabel] using host.isLabelChar label hlabel

/-- **What is taken for a host is the name of one**, and nothing else is. -/
theorem isHost_iff {name : String} :
    HostPattern.isHost name.toList = true ↔ ∃ host : HostName, host.text = name := by
  constructor
  · intro h
    simp only [HostPattern.isHost, HostPattern.isLabel, Bool.and_eq_true, decide_eq_true_eq,
      List.all_eq_true, Bool.not_eq_true', List.isEmpty_eq_false_iff] at h
    obtain ⟨hlength, hlabels⟩ := h
    refine ⟨⟨name.toList.splitOn '.', hlength, fun label hlabel => (hlabels label hlabel).1,
      fun label hlabel => (hlabels label hlabel).2⟩, ?_⟩
    rw [text, List.intercalate_splitOn, String.ofList_toList]
  · rintro ⟨host, rfl⟩
    exact host.isHost_text

end HostName

/-! ## Patterns -/

namespace HostPattern

/-- A pattern is taken apart into what it begins with, the name of a host as it is written, and the
rest. -/
structure IsSplit (pattern lead name path : List Char) : Prop where
  pattern_eq : pattern = lead ++ name ++ path
  /-- What it begins with is one of the `leads`, and none that comes before it there fits. -/
  firstLead : ∃ before behind, leads = before ++ lead :: behind ∧
    ∀ other ∈ before, ¬ other <+: pattern
  name_open : ∀ c ∈ name, c ∉ "/^:?*|".toList
  path_closed : ∀ c ∈ path.head?, c ∈ "/^:?*|".toList
  isHostName : ∃ host : HostName, host.text = String.ofList (Text.lowerChars name)

theorem endsHost_iff {c : Char} : endsHost c = true ↔ c ∈ "/^:?*|".toList := by
  simp [endsHost, or_assoc]

theorem isPrefixOf?_eq_none_iff {s t : List Char} : s.isPrefixOf? t = none ↔ ¬ s <+: t := by
  simp [Option.eq_none_iff_forall_ne_some, List.isPrefixOf?_eq_some_iff_append_eq, List.IsPrefix]

theorem afterLead?_eq_some_iff {pattern rest : List Char} : afterLead? pattern = some rest ↔
    ∃ lead, pattern = lead ++ rest ∧ ∃ before behind, leads = before ++ lead :: behind ∧
      ∀ other ∈ before, ¬ other <+: pattern := by
  rw [afterLead?, List.findSome?_eq_some_iff]
  simp only [List.isPrefixOf?_eq_some_iff_append_eq, isPrefixOf?_eq_none_iff]
  constructor
  · rintro ⟨before, lead, behind, hleads, hpattern, hfirst⟩
    exact ⟨lead, hpattern.symm, before, behind, hleads, hfirst⟩
  · rintro ⟨lead, hpattern, before, behind, hleads, hfirst⟩
    exact ⟨before, lead, behind, hleads, hpattern.symm, hfirst⟩

namespace IsSplit

variable {pattern lead name path : List Char} (h : IsSplit pattern lead name path)
include h

theorem afterLead?_eq : afterLead? pattern = some (name ++ path) :=
  afterLead?_eq_some_iff.2 ⟨lead, by rw [h.pattern_eq, List.append_assoc], h.firstLead⟩

private theorem not_endsHost : ∀ c ∈ name, (!endsHost c) = true := by
  intro c hc
  rw [Bool.not_eq_true', ← Bool.not_eq_true, endsHost_iff]
  exact h.name_open c hc

theorem takeWhile_eq : (name ++ path).takeWhile (!endsHost ·) = name := by
  rw [List.takeWhile_append_of_pos h.not_endsHost]
  cases hpath : path with
  | nil => rw [List.takeWhile_nil, List.append_nil]
  | cons c rest =>
    have hc := endsHost_iff.2 (h.path_closed c (by rw [hpath]; rfl))
    rw [List.takeWhile_cons_of_neg (by rw [hc]; decide), List.append_nil]

theorem dropWhile_eq : (name ++ path).dropWhile (!endsHost ·) = path := by
  have hsplit := List.takeWhile_append_dropWhile (p := (!endsHost ·)) (l := name ++ path)
  rw [h.takeWhile_eq] at hsplit
  exact List.append_cancel_left hsplit

/-- **There is one way at most to take a pattern apart.** -/
theorem unique {lead' name' path' : List Char} (h' : IsSplit pattern lead' name' path') :
    lead = lead' ∧ name = name' ∧ path = path' := by
  have hrest : name ++ path = name' ++ path' :=
    Option.some.inj (h.afterLead?_eq.symm.trans h'.afterLead?_eq)
  have hname : name = name' := by rw [← h.takeWhile_eq, hrest, h'.takeWhile_eq]
  subst hname
  obtain rfl := List.append_cancel_left hrest
  have hpattern := h.pattern_eq.symm.trans h'.pattern_eq
  exact ⟨List.append_cancel_right (List.append_cancel_right hpattern), rfl, rfl⟩

end IsSplit

/-- **A pattern is about one host exactly if it can be taken apart so.** -/
theorem ofPattern?_eq_some_iff {pattern : String} {p : HostPattern} :
    ofPattern? pattern = some p ↔ ∃ lead name path, IsSplit pattern.toList lead name path ∧
      p = ⟨String.ofList (Text.lowerChars name), String.ofList path⟩ := by
  constructor
  · intro h
    rw [ofPattern?] at h
    split at h
    · cases h
    · rename_i rest hrest
      obtain ⟨hhost, hp⟩ := Option.ite_none_right_eq_some.1 h
      obtain ⟨lead, hpattern, hfirst⟩ := afterLead?_eq_some_iff.1 hrest
      refine ⟨lead, rest.takeWhile (!endsHost ·), rest.dropWhile (!endsHost ·), ?_,
        (Option.some.inj hp).symm⟩
      refine ⟨?_, hfirst, fun c hc => ?_, fun c hc => ?_, ?_⟩
      · rw [List.append_assoc, List.takeWhile_append_dropWhile, hpattern]
      · have hopen := List.all_eq_true.1 List.all_takeWhile c hc
        rw [Bool.not_eq_true', ← Bool.not_eq_true, endsHost_iff] at hopen
        exact hopen
      · have hclosed := List.head?_dropWhile_not (!endsHost ·) rest
        rw [Option.mem_def] at hc
        rw [hc] at hclosed
        exact endsHost_iff.1 (by simpa using hclosed)
      · exact HostName.isHost_iff.1 (by rwa [String.toList_ofList])
  · rintro ⟨lead, name, path, h, rfl⟩
    have hhost : isHost (Text.lowerChars name) = true := by
      have hname := HostName.isHost_iff.2 h.isHostName
      rwa [String.toList_ofList] at hname
    rw [ofPattern?, h.afterLead?_eq]
    dsimp only
    rw [h.takeWhile_eq, h.dropWhile_eq, if_pos hhost]

/-- **The host of a pattern is found exactly where there is one, and nothing of the pattern is
lost**: the name is taken in lower case and the rest as it is, and no other way to take the pattern
apart is there.  Any other pattern is about no host. -/
theorem ofPattern?_takes_apart (pattern : String) :
    (∀ p, ofPattern? pattern = some p ↔ ∃ lead name path,
      IsSplit pattern.toList lead name path ∧
        p.host = String.ofList (Text.lowerChars name) ∧ p.path = String.ofList path) ∧
    (∀ lead name path lead' name' path', IsSplit pattern.toList lead name path →
      IsSplit pattern.toList lead' name' path' → lead = lead' ∧ name = name' ∧ path = path') ∧
    (ofPattern? pattern = none ↔
      ¬ ∃ lead name path, IsSplit pattern.toList lead name path) := by
  refine ⟨fun ⟨host, path⟩ => ?_, fun _ _ _ _ _ _ h h' => h.unique h', ?_⟩
  · simp only [ofPattern?_eq_some_iff, HostPattern.mk.injEq]
  · constructor
    · rintro hnone ⟨lead, name, path, h⟩
      have hsome := ofPattern?_eq_some_iff.2 ⟨lead, name, path, h, rfl⟩
      rw [hnone] at hsome
      cases hsome
    · intro h
      rw [Option.eq_none_iff_forall_ne_some]
      intro p hp
      obtain ⟨lead, name, path, hsplit, -⟩ := ofPattern?_eq_some_iff.1 hp
      exact h ⟨lead, name, path, hsplit⟩

/-- The scheme is no part of the host, and the port is part of what is left. -/
theorem ofPattern?_takes_apart_of_port :
    IsSplit "|https://Sub.example:80/".toList "|https://".toList "Sub.example".toList
        ":80/".toList ∧
      ofPattern? "|https://Sub.example:80/" = some ⟨"sub.example", ":80/"⟩ ∧
      ¬ IsSplit "|https://Sub.example:80/".toList "|".toList "https".toList
        "://Sub.example:80/".toList := by
  obtain ⟨hfound, hunique, -⟩ := ofPattern?_takes_apart "|https://Sub.example:80/"
  have hopen : ("Sub.example".toList.all fun c => !endsHost c) = true := by decide
  have hsplit : IsSplit "|https://Sub.example:80/".toList "|https://".toList "Sub.example".toList
      ":80/".toList := by
    refine ⟨rfl, ⟨["||".toList], _, rfl, ?_⟩, fun c hc => ?_, fun c hc => ?_, ?_⟩
    · exact List.forall_mem_singleton.2 (by decide)
    · rw [← endsHost_iff, Bool.not_eq_true, ← Bool.not_eq_true']
      exact List.all_eq_true.1 hopen c hc
    · obtain rfl : ':' = c := Option.some.inj hc
      decide
    · exact HostName.isHost_iff.1 (by decide +kernel)
  refine ⟨hsplit, (hfound _).2 ⟨_, _, _, hsplit, by decide +kernel, by decide +kernel⟩, ?_⟩
  exact fun h => absurd (hunique _ _ _ _ _ _ hsplit h).1 (by decide)

/-- A letter that is no letter of ASCII is accepted where it is one in lower case. -/
example : ofPattern? "|https://Sub.\u212aelvin.org:80/|" =
    some ⟨"sub.kelvin.org", ":80/|"⟩ := by decide +kernel

end HostPattern
end ContentBlocker
