import ContentBlocker.Rule.Reader
import ContentBlocker.UrlPattern.Host

/-!
# Rules that switch the blocker off

A user can have the blocker off on a site, or off everywhere but on a site.  Either wish is a rule
of its own, `AllowKind.ruleText`, and is looked for among rules by its text.
-/

set_option autoImplicit false
namespace ContentBlocker

/-- Where a rule for a site has the blocker off. -/
inductive AllowKind where
  /-- On the site. -/
  | onSite
  /-- Everywhere but on the site. -/
  | offSite
  deriving DecidableEq

namespace AllowKind

/-- The rule for a site. -/
def ruleText (kind : AllowKind) (domain : String) : String :=
  match kind with
  | .onSite => "@@||" ++ domain ++ "$document"
  | .offSite => "@@||*$document,domain=~" ++ domain

/-- Whether some rules have one for a site.  A rule that has the blocker off on the site may have a
separator behind the host. -/
def isAmong (kind : AllowKind) (domain : String) (rules : List String) : Bool :=
  match kind with
  | .onSite =>
    rules.any fun rule =>
      rule == kind.ruleText domain || rule == kind.ruleText (domain ++ "^")
  | .offSite => rules.contains (kind.ruleText domain)

end AllowKind

/-- The domains that a rule names, and the host of its pattern. -/
def Rule.mentionedDomains (rule : Rule) : List String :=
  rule.permittedDomains ++ rule.restrictedDomains ++
    match rule.body with
    | .network network => (HostPattern.ofPattern? network.pattern).toList.map (·.host)
    | _ => []

/-- Whether a line is a rule that mentions a domain. -/
def mentionsDomain (domain line : String) : Bool :=
  match Rule.ofText? line with
  | .ok (some rule) => rule.mentionedDomains.contains domain
  | .ok none => false
  | .error _ => false

end ContentBlocker
