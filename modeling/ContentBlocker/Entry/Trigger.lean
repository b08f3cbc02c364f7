import ContentBlocker.Domain.Scope
import ContentBlocker.Entry.ResourceTypes
import ContentBlocker.Rule.Basic
import ContentBlocker.UrlPattern.Basic
import ContentBlocker.UrlPattern.Host

/-!
# The trigger of a rule

`Rule.trigger` says what the entry of a rule is about.  A cosmetic rule is about every URL on its
domains.  For a network rule the trigger needs a url-filter (`NetworkRule.urlFilter`), a scope, and
kinds of resources, and the first of these that cannot be had is the reason why there is no trigger.
-/

set_option autoImplicit false
namespace ContentBlocker

/-! ## Url-filters -/

/-- The url-filter of any URL. -/
def anyUrlFilter : String :=
  ".*"

/-- The url-filter of any web socket. -/
def anyWebSocketFilter : String :=
  "^wss?:\\/\\/"

/-- The url-filter of any URL of the web. -/
def webUrlFilter : String :=
  "^[htpsw]+:\\/\\/"

/-- A regular expression as a url-filter. -/
def checkedFilter (source : String) : Except Rejection String :=
  match Regex.check source with
  | some fault => .error (.unsupportedRegex fault source)
  | none => .ok source

namespace NetworkRule

/-- Whether a rule is about web sockets only. -/
def isWebSocketOnly (rule : NetworkRule) : Bool :=
  rule.permittedTypes == [.webSocket]

/-- The url-filter of a rule.  A regular expression counts before the pattern. -/
def urlFilter (rule : NetworkRule) : Except Rejection String :=
  match rule.regex.filter (!·.isEmpty) with
  | some source => checkedFilter source
  | none =>
    if UrlPattern.isAnyUrl rule.pattern then
      .ok (if rule.isWebSocketOnly then anyWebSocketFilter else anyUrlFilter)
    else if UrlPattern.isHostAnchored rule.pattern then
      .ok webUrlFilter
    else
      checkedFilter (UrlPattern.toFilter rule.pattern)

/-- Whether the rest of a pattern behind a host leaves open which page of the host it is. -/
def isDocumentWide (path : String) : Bool :=
  path == "^" || path == "/"

/-- The host that a rule is about which takes back all that is done on some pages. -/
def documentHost? (rule : NetworkRule) : Option HostPattern :=
  if rule.isDocumentException then HostPattern.ofPattern? rule.pattern else none

/-- The trigger of a network rule on the given domains.  A rule that takes back all that is done on
the pages of a host is about every URL that such a page loads, on that host unless it names
domains. -/
def trigger (rule : NetworkRule) (permitted restricted : List String) :
    Except Rejection Trigger := do
  let filter ← rule.urlFilter
  let (filter, permitted) :=
    match rule.documentHost? with
    | none => (filter, permitted)
    | some ⟨host, path⟩ =>
      (if isDocumentWide path then anyUrlFilter else filter,
        if permitted.isEmpty then [host] else permitted)
  match Scope.ofDomains? permitted restricted with
  | none => throw .conflictingDomains
  | some scope =>
    let types ← resourceTypes rule.permittedTypes rule.restrictedTypes rule.isReplace
    return {
      urlFilter := filter
      ifDomain := scope.only?
      unlessDomain := scope.except?
      resourceType := types
      loadType :=
        if rule.checksParty then
          some [if rule.isThirdParty then .thirdParty else .firstParty]
        else
          none
      caseSensitive := if rule.matchesCase then some true else none }

end NetworkRule

/-! ## Rules -/

/-- The trigger of a rule that is about every URL on its domains. -/
def cosmeticTrigger (permitted restricted : List String) : Except Rejection Trigger :=
  match Scope.ofDomains? permitted restricted with
  | none => .error .conflictingDomains
  | some scope =>
    .ok { urlFilter := anyUrlFilter, ifDomain := scope.only?, unlessDomain := scope.except? }

/-- The trigger of a rule. -/
def Rule.trigger (rule : Rule) : Except Rejection Trigger :=
  match rule.body with
  | .network network => network.trigger rule.permittedDomains rule.restrictedDomains
  | .hide _ _ | .script _ | .scriptlet _ _ =>
    cosmeticTrigger rule.permittedDomains rule.restrictedDomains

end ContentBlocker
