import ContentBlocker.Rule.Basic
import ContentBlocker.Rule.DomainList

/-!
# Modifiers of network rules

A modifier is a name with a tilde before it or not, and with an equals sign and a value behind it or
not.  `Modifier.ofChars` reads one; the case of its name does not count, and neither does a value
that it has no use for.

What modifiers do to a rule can be said for each property on its own: the lists are what the
modifiers name, in order (`permittedTypes`, `restrictedTypes`, `listedDomains`), a property that can
only be turned on is on if some modifier turns it on, and one that can be turned on and off is as
the last modifier about it says (`lastSetting`).
-/

set_option autoImplicit false
namespace ContentBlocker

/-- A modifier of a network rule. -/
inductive Modifier where
  | domain (domains : List ListedDomain)
  /-- The URL has to be of another site, or of the site that loads it. -/
  | party (third : Bool)
  | matchCase (on : Bool)
  /-- The rule is about documents, or about anything but them. -/
  | document (negated : Bool)
  | replace
  | contentType (negated : Bool) (type : ContentType)
  deriving DecidableEq

namespace Modifier

/-! ## Reading -/

/-- A modifier in its parts: a tilde or not, a name in lower case, and a value, empty where there is
none. -/
def split (s : List Char) : Bool × String × List Char :=
  let (negated, raw) :=
    match s with
    | '~' :: raw => (true, raw)
    | raw => (false, raw)
  let name := raw.takeWhile (· != '=')
  (negated, String.ofList (Text.lowerChars name), raw.drop (name.length + 1))

/-- Reads a modifier that names a content type. -/
def ofContentType (text : String) (negated : Bool) (name : String) : Except RuleError Modifier :=
  match ContentType.ofModifier? name with
  | none => .error (.unsupportedModifier text)
  | some type =>
    if negated && type == .all then .error (.unsupportedModifier text)
    else .ok (.contentType negated type)

/-- Reads a modifier. -/
def ofChars (s : List Char) : Except RuleError Modifier :=
  let text := String.ofList s
  let (negated, name, value) := split s
  match name with
  | "domain" =>
    if negated || value.isEmpty then .error (.invalidDomainModifier text)
    else (ListedDomain.readList '|' value).map .domain
  | "third-party" | "3p" => .ok (.party !negated)
  | "first-party" | "1p" => .ok (.party negated)
  | "match-case" => .ok (.matchCase !negated)
  | "document" | "doc" => .ok (.document negated)
  | "replace" => if negated then .error (.invalidReplaceModifier text) else .ok .replace
  | name => ofContentType text negated name

/-- The parts of a list of modifiers that are not blank, without the blanks around them. -/
def parts (s : List Char) : List (List Char) :=
  ((s.splitOn ',').map Text.trimChars).filter (!·.isEmpty)

/-- Reads a list of modifiers with commas between them, up to the first that is not one. -/
def readList (s : List Char) : Except RuleError (List Modifier) :=
  (parts s).mapM ofChars

/-! ## What a modifier says about each property -/

/-- The domains that a modifier names. -/
def domains : Modifier → List ListedDomain
  | .domain ds => ds
  | _ => []

/-- The content type that a modifier asks for.  In an exception `document` asks for none. -/
def permittedType? (isException : Bool) : Modifier → Option ContentType
  | .document false => if isException then none else some .document
  | .contentType false type => some type
  | _ => none

/-- The content type that a modifier excludes. -/
def restrictedType? : Modifier → Option ContentType
  | .document true => some .document
  | .contentType true type => some type
  | _ => none

/-- What a modifier says about whose site the URL is of. -/
def thirdParty? : Modifier → Option Bool
  | .party third => some third
  | _ => none

/-- What a modifier says about letter case. -/
def matchCase? : Modifier → Option Bool
  | .matchCase on => some on
  | _ => none

/-! ## What a list of modifiers says -/

/-- What the last modifier says that says anything; off if none does. -/
def lastSetting (setting? : Modifier → Option Bool) (modifiers : List Modifier) : Bool :=
  (modifiers.filterMap setting?).getLast?.getD false

/-- The domains that modifiers name. -/
def listedDomains (modifiers : List Modifier) : List ListedDomain :=
  modifiers.flatMap domains

/-- A network rule with some modifiers. -/
def toNetworkRule (isException : Bool) (pattern : String) (regex : Option String)
    (modifiers : List Modifier) : NetworkRule where
  pattern := pattern
  regex := regex
  permittedTypes := modifiers.filterMap (permittedType? isException)
  restrictedTypes := modifiers.filterMap restrictedType?
  checksParty := modifiers.any (·.thirdParty?.isSome)
  isThirdParty := lastSetting thirdParty? modifiers
  matchesCase := lastSetting matchCase? modifiers
  isDocumentException := isException && modifiers.contains (.document false)
  isReplace := modifiers.contains .replace

end Modifier
end ContentBlocker
