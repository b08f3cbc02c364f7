import ContentBlocker.Entry.Basic
import ContentBlocker.Entry.Rejection

/-!
# From content types to kinds of resources

A network rule names content types that it is about, or content types that it is not about, or both.
A rule that names none, or all, is about every kind of resource as long as it excludes none of the
default ones; otherwise the trigger lists the kinds of resources that are left.  Some content types
have no counterpart among the kinds of resources.
-/

set_option autoImplicit false
namespace ContentBlocker

namespace ContentType

/-- Whether a content type has no counterpart among the kinds of resources. -/
def isUnsupported : ContentType → Bool
  | .object | .objectSubrequest | .webRtc => true
  | _ => false

/-- The kind of resources that a content type stands for. -/
def resourceType : ContentType → ResourceType
  | .image => .image
  | .stylesheet => .styleSheet
  | .script => .script
  | .media => .media
  | .xmlHttpRequest | .other | .webSocket | .ping => .raw
  | .font => .font
  | .subdocument | .document => .document
  | .all | .object | .objectSubrequest | .webRtc | .reserved _ => .unnamed

/-- The content types that a rule is about which excludes some and names none. -/
def defaults : List ContentType :=
  [.image, .stylesheet, .script, .media, .xmlHttpRequest, .other, .webSocket, .ping, .font]

end ContentType

/-- Whether a rule that names these content types is about all of them. -/
def isUnrestricted (permitted : List ContentType) : Bool :=
  permitted.isEmpty || permitted.contains .all

/-- The content types that a rule is about before its exclusions. -/
def declaredTypes (permitted : List ContentType) : List ContentType :=
  if isUnrestricted permitted then ContentType.defaults
  else permitted.filter fun type => type != .all && !type.isUnsupported

/-- The kinds of resources that a rule is about, without repeats and in the order in which the rule
names them; `none` within the result is every kind. -/
def resourceTypes (permitted restricted : List ContentType) (isReplace : Bool) :
    Except Rejection (Option (List ResourceType)) :=
  match permitted.find? ContentType.isUnsupported with
  | some type => .error (.unsupportedContentType type)
  | none =>
    if isReplace then
      .error .replaceRule
    else
      let remaining := (declaredTypes permitted).filter (!restricted.contains ·)
      if isUnrestricted permitted && remaining.length == ContentType.defaults.length then
        .ok none
      else if remaining.isEmpty then
        .error .noContentType
      else
        .ok (some (remaining.map ContentType.resourceType).eraseDups)

end ContentBlocker
