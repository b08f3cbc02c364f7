import ContentBlocker.Proofs.Allowlist.SiteRule
import ContentBlocker.Proofs.UrlPattern.HostName

/-!
# The rule for a host

The rule that switches the blocker off on a site is tied to the pages of that site by the host in
its pattern.  A site need not be a host, and where no host can be taken from the pattern, the entry
of the rule names no domain.  For a host (`HostName`) this cannot happen, whichever labels it is
made of, because what is looked for in the pattern is just such a name (`HostName.isHost_iff`).

So the entries of the two rules for a host are about the pages of that host and about all others
(`rules_for_host`).  The rules are found again by that name and by no other: as texts
(`AllowKind.isAmong_singleton_iff`) and by the domains that they mention
(`AllowKind.mentionsDomain_iff`).
-/

set_option autoImplicit false
namespace ContentBlocker

namespace HostName

variable (host : HostName)

theorem isSite_text : IsSite host.text where
  ne_empty := by
    intro hempty
    have hhost := host.isHost_text
    rw [hempty] at hhost
    cases hhost
  isSiteChar := by
    intro c hc
    rw [text, String.toList_ofList] at hc
    rcases mem_intercalate hc with hc | ⟨label, hlabel, hc⟩
    · rw [List.mem_singleton.1 hc]
      rfl
    · rw [isSiteChar, host.isLabelChar label hlabel c hc, Bool.true_or]

end HostName

namespace AllowKind

/-! ## Finding the rule again -/

/-- A rule for a site is looked for by its text, which may have a separator behind the site. -/
theorem isAmong_singleton_iff {kind : AllowKind} {domain domain' : String}
    (h : '^' ∉ domain'.toList) :
    kind.isAmong domain [kind.ruleText domain'] = true ↔ domain = domain' := by
  have hsame : kind.ruleText domain' = kind.ruleText domain ↔ domain = domain' :=
    ⟨fun heq => (ruleText_injective heq).symm, fun heq => by rw [heq]⟩
  cases kind with
  | offSite => simpa [isAmong, eq_comm] using hsame
  | onSite =>
    have hcaret : ruleText .onSite domain' ≠ ruleText .onSite (domain ++ "^") := by
      intro heq
      rw [ruleText_injective heq, String.toList_append] at h
      exact h (List.mem_append_right _ (by decide))
    simpa [isAmong, hcaret] using hsame

section
variable {domain : String} (h : IsSite domain) (hhost : HostPattern.isHost domain.toList = true)
include h hhost

/-- The rule for a host mentions that host and nothing else. -/
theorem mentionedDomains_siteRule (kind : AllowKind) :
    (kind.siteRule domain).mentionedDomains = [domain] := by
  cases kind with
  | onSite =>
    have hpattern := ofPattern?_onSite h
    rw [if_pos hhost] at hpattern
    simp [Rule.mentionedDomains, siteRule, restrictedDomains, hpattern]
  | offSite =>
    have hpattern : HostPattern.ofPattern? (pattern .offSite domain) = none :=
      show HostPattern.ofPattern? "||*" = none from rfl
    simp [Rule.mentionedDomains, siteRule, restrictedDomains, hpattern]

theorem mentionsDomain_iff {kind : AllowKind} {domain' : String} :
    mentionsDomain domain' (kind.ruleText domain) = true ↔ domain' = domain := by
  rw [mentionsDomain, ofText?_ruleText h]
  simp [mentionedDomains_siteRule h hhost]

end
end AllowKind

/-- **The rules for a host are about that host.**  Each is read and has an entry that takes back what
the others do: the one on the pages of the host, the other on all pages but those.  Among hosts only
this one is mentioned by them, and it is the only one for which they are found again. -/
theorem rules_for_host (host other : HostName) :
    (∃ rule entry, Rule.ofText? (AllowKind.ruleText .onSite host.text) = .ok (some rule) ∧
      (∀ advanced, rule.compile advanced = .ok entry) ∧
      entry.action = { type := .ignorePrevious } ∧
      entry.trigger.ifDomain = some [host.text] ∧ entry.trigger.unlessDomain = none) ∧
    (∃ rule entry, Rule.ofText? (AllowKind.ruleText .offSite host.text) = .ok (some rule) ∧
      (∀ advanced, rule.compile advanced = .ok entry) ∧
      entry.action = { type := .ignorePrevious } ∧ entry.trigger.urlFilter = ".*" ∧
      entry.trigger.unlessDomain = some [host.text] ∧ entry.trigger.ifDomain = none) ∧
    ∀ kind : AllowKind,
      (mentionsDomain other.text (kind.ruleText host.text) = true ↔ other.text = host.text) ∧
      (kind.isAmong other.text [kind.ruleText host.text] = true ↔ other.text = host.text) := by
  have hsite := host.isSite_text
  have hread := AllowKind.ofText?_ruleText hsite
  have hcompile := AllowKind.compile_siteRule hsite
  refine ⟨⟨_, _, hread .onSite, hcompile .onSite, rfl, if_pos host.isHost_text, rfl⟩,
    ⟨_, _, hread .offSite, hcompile .offSite, rfl, rfl, rfl, rfl⟩, fun kind => ⟨?_, ?_⟩⟩
  · exact AllowKind.mentionsDomain_iff hsite host.isHost_text
  · exact AllowKind.isAmong_singleton_iff (hsite.not_mem rfl)

/-- A host and the one that it is a part of: the rule for the one is not found by the name of the
other. -/
theorem rules_for_host_of_subdomain : ∃ host other : HostName,
    host.text = "shop.example-2.org" ∧ other.text = "example-2.org" ∧
    (∃ rule entry, Rule.ofText? "@@||shop.example-2.org$document" = .ok (some rule) ∧
      rule.compile false = .ok entry ∧ entry.trigger.ifDomain = some ["shop.example-2.org"]) ∧
    mentionsDomain host.text "@@||*$document,domain=~shop.example-2.org" = true ∧
    ¬ mentionsDomain other.text "@@||*$document,domain=~shop.example-2.org" = true := by
  obtain ⟨host, htext⟩ := HostName.isHost_iff.1
    (show HostPattern.isHost "shop.example-2.org".toList = true by decide +kernel)
  obtain ⟨other, hother⟩ := HostName.isHost_iff.1
    (show HostPattern.isHost "example-2.org".toList = true by decide +kernel)
  obtain ⟨⟨rule, entry, hread, hcompile, -, hdomain, -⟩, -, hfound⟩ := rules_for_host host host
  obtain ⟨-, -, hlost⟩ := rules_for_host host other
  rw [htext] at hread hdomain
  have hmentioned := (hfound .offSite).1.2 rfl
  have hunmentioned := (hlost .offSite).1
  rw [htext] at hmentioned hunmentioned
  rw [hother] at hunmentioned
  refine ⟨host, other, htext, hother, ⟨rule, entry, hread, hcompile false, hdomain⟩, ?_, ?_⟩
  · rwa [htext]
  · rw [hother]
    exact fun h => absurd (hunmentioned.1 h) (by decide)

end ContentBlocker
