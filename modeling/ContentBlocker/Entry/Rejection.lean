import ContentBlocker.Regex.Dialect
import ContentBlocker.Rule.ContentType

/-!
# Why a rule has no entry

A rule can be well formed and still have no counterpart in a content blocker.  A `Rejection` says
why, and with its details gives the sentence for the user; its `reason` is what rejections are
counted by.
-/

set_option autoImplicit false
namespace ContentBlocker

/-- The reasons that rejections are counted by. -/
inductive RejectReason where
  | unsupportedRegex
  | conflictingDomains
  | unsupportedContentType
  | replaceRule
  | unsafeCss
  | advancedBlockingDisabled
  | unscopedDocumentBlock
  deriving DecidableEq

/-- The kinds of rules that need advanced blocking. -/
inductive AdvancedKind where
  | script
  | scriptlet
  | extendedCss
  deriving DecidableEq

/-- Why a rule has no entry. -/
inductive Rejection where
  | unsupportedRegex (fault : Regex.Fault) (source : String)
  | conflictingDomains
  | unsupportedContentType (type : ContentType)
  /-- All content types of the rule are excluded by it. -/
  | noContentType
  | replaceRule
  | unsafeCss (selector : String)
  | advancedBlockingDisabled (kind : AdvancedKind)
  | unscopedDocumentBlock
  deriving DecidableEq

namespace RejectReason

/-- The name of a reason. -/
def name : RejectReason → String
  | .unsupportedRegex => "unsupported-regex"
  | .conflictingDomains => "conflicting-domains"
  | .unsupportedContentType => "unsupported-content-type"
  | .replaceRule => "replace-rule"
  | .unsafeCss => "unsafe-css"
  | .advancedBlockingDisabled => "advanced-blocking-disabled"
  | .unscopedDocumentBlock => "unscoped-document-block"

/-- All reasons. -/
def all : List RejectReason :=
  [.unsupportedRegex, .conflictingDomains, .unsupportedContentType, .replaceRule, .unsafeCss,
   .advancedBlockingDisabled, .unscopedDocumentBlock]

theorem mem_all (r : RejectReason) : r ∈ all := by
  cases r <;> decide

end RejectReason

namespace AdvancedKind

/-- How rules of a kind are called. -/
def name : AdvancedKind → String
  | .script => "Script"
  | .scriptlet => "Scriptlet"
  | .extendedCss => "Extended CSS"

end AdvancedKind

namespace Rejection

/-- The reason that a rejection is counted by. -/
def reason : Rejection → RejectReason
  | .unsupportedRegex _ _ => .unsupportedRegex
  | .conflictingDomains => .conflictingDomains
  | .unsupportedContentType _ => .unsupportedContentType
  | .noContentType => .unsupportedContentType
  | .replaceRule => .replaceRule
  | .unsafeCss _ => .unsafeCss
  | .advancedBlockingDisabled _ => .advancedBlockingDisabled
  | .unscopedDocumentBlock => .unscopedDocumentBlock

/-- A rejection in a sentence. -/
def message : Rejection → String
  | .unsupportedRegex fault source => fault.message ++ " (" ++ source ++ ")"
  | .conflictingDomains => "Permitted and restricted domains cannot be combined in one entry."
  | .unsupportedContentType type =>
    "Content type $" ++ type.name ++ " has no resource-type equivalent."
  | .noContentType => "No content types remain after exclusions."
  | .replaceRule => "Rules rewriting the response body ($replace) cannot be converted."
  | .unsafeCss selector => "Selector loads remote resources: " ++ selector
  | .advancedBlockingDisabled kind =>
    kind.name ++ " rules require advanced blocking to be enabled."
  | .unscopedDocumentBlock => "Blocking third-party frames requires a permitted domain."

end Rejection
end ContentBlocker
