import ContentBlocker.Entry.Basic
import ContentBlocker.Json.Writer

/-!
# The written form of entries

A content blocker is written as a JSON array without white space.  The members of an entry always
come in the same order, and a member is there exactly if the property is.
-/

set_option autoImplicit false
namespace ContentBlocker

/-- A member of an object, if there is something to write. -/
def optionalMember {α : Type} (name : String) (toJson : α → Json) (value : Option α) :
    List (String × Json) :=
  value.toList.map fun v => (name, toJson v)

/-- The written form of a kind of resources. -/
def ResourceType.toJson (type : ResourceType) : Json :=
  match type.name? with
  | some name => .str name
  | none => .null

/-- The written form of a trigger. -/
def Trigger.toJson (trigger : Trigger) : Json :=
  .obj <|
    ("url-filter", .str trigger.urlFilter) ::
    optionalMember "url-filter-is-case-sensitive" .bool trigger.caseSensitive ++
    optionalMember "if-domain" .ofStrings trigger.ifDomain ++
    optionalMember "unless-domain" .ofStrings trigger.unlessDomain ++
    optionalMember "resource-type" (fun types => .arr (types.map (·.toJson)))
      trigger.resourceType ++
    optionalMember "load-type" (fun types => .ofStrings (types.map (·.name))) trigger.loadType

/-- The written form of an action. -/
def Action.toJson (action : Action) : Json :=
  .obj <|
    ("type", .str action.type.name) ::
    optionalMember "selector" .str action.selector ++
    optionalMember "css" .str action.css ++
    optionalMember "script" .str action.script ++
    optionalMember "scriptlet" .str action.scriptlet ++
    optionalMember "scriptletParam" .str action.scriptletParam

/-- The written form of an entry. -/
def Entry.toJson (entry : Entry) : Json :=
  .obj [("trigger", entry.trigger.toJson), ("action", entry.action.toJson)]

/-- An entry as text. -/
def Entry.serialize (entry : Entry) : String :=
  entry.toJson.compact

/-- A content blocker as text. -/
def serializeEntries (entries : List Entry) : String :=
  (Json.arr (entries.map Entry.toJson)).compact

end ContentBlocker
