import ContentBlocker.Entry.Wire
import ContentBlocker.Json.Reader

/-!
# Entries from their written form

The inverse of the written form: `Entry.ofJson?` takes an entry from a JSON value, member by member
and by their names, as a reader of a content blocker does.  From the written form of an entry it
takes that entry (`Entry.ofJson?_toJson`), with the properties that the entry has and no others.

A member that need not be there is taken as absent only if the object has no member of that name
(`Json.optional?`).  So an empty list, an empty text and `false` are told from what is absent.
-/

set_option autoImplicit false
namespace ContentBlocker

namespace Json

section
variable {α : Type} (read? : Json → Option α)

/-- The elements of an array, if all of them can be read. -/
def list? (v : Json) : Option (List α) := do
  let elements ← v.elements?
  elements.mapM read?

/-- What a member says, if it is there and can be read. -/
def required? (name : String) (v : Json) : Option α := do
  let w ← v.field? name
  read? w

/-- What a member says that need not be there.  One that is there has to be readable. -/
def optional? (name : String) (v : Json) : Option (Option α) :=
  match v.field? name with
  | none => some none
  | some w => (read? w).map some

variable {read?} {f : α → Json} (h : ∀ a, read? (f a) = some a)
include h

theorem list?_arr_map (as : List α) : (arr (as.map f)).list? read? = some as := by
  show (as.map f).mapM read? = some as
  induction as with
  | nil => rfl
  | cons a as ih =>
    rw [List.map_cons, List.mapM_cons, h, ih]
    rfl

theorem required?_of_field? {name : String} {v : Json} {a : α}
    (hfield : v.field? name = some (f a)) : v.required? read? name = some a := by
  rw [required?, hfield]
  exact h a

theorem optional?_of_field? {name : String} {v : Json} {value : Option α}
    (hfield : v.field? name = value.map f) : v.optional? read? name = some value := by
  rw [optional?, hfield]
  cases value with
  | none => rfl
  | some a =>
    show (read? (f a)).map some = some (some a)
    rw [h]
    rfl

end

/-! ## Members by name -/

section
variable (key : String)

@[simp] theorem field?_nil : (obj []).field? key = none :=
  rfl

@[simp] theorem field?_append (ms ns : List (String × Json)) :
    (obj (ms ++ ns)).field? key = ((obj ns).field? key).or ((obj ms).field? key) := by
  rw [field?, field?, field?, List.reverse_append, List.find?_append]
  cases ns.reverse.find? (·.1 == key) <;> rfl

theorem field?_singleton (name : String) (v : Json) :
    (obj [(name, v)]).field? key = if name = key then some v else none := by
  by_cases h : name = key <;> simp [field?, h]

@[simp] theorem field?_cons (name : String) (v : Json) (ms : List (String × Json)) :
    (obj ((name, v) :: ms)).field? key =
      ((obj ms).field? key).or (if name = key then some v else none) := by
  rw [← List.singleton_append, field?_append, field?_singleton]

@[simp] theorem field?_optionalMember {α : Type} (name : String) (toJson : α → Json) (value : Option α) :
    (obj (optionalMember name toJson value)).field? key =
      if name = key then value.map toJson else none := by
  cases value with
  | none => exact (ite_self none).symm
  | some a => exact field?_singleton key name (toJson a)

end

end Json

/-! ## Readers -/

/-- A kind of resources from its written form. -/
def ResourceType.ofJson? : Json → Option ResourceType
  | .null => some .unnamed
  | .str name => named.find? (·.name? == some name)
  | _ => none

/-- A load type from its written form. -/
def LoadType.ofJson? (v : Json) : Option LoadType := do
  let name ← v.text?
  [LoadType.firstParty, .thirdParty].find? (·.name == name)

/-- A type of actions from its written form. -/
def ActionType.ofJson? (v : Json) : Option ActionType := do
  let name ← v.text?
  all.find? (·.name == name)

/-- A trigger from its written form. -/
def Trigger.ofJson? (v : Json) : Option Trigger := do
  let urlFilter ← v.required? Json.text? "url-filter"
  let caseSensitive ← v.optional? Json.bool? "url-filter-is-case-sensitive"
  let ifDomain ← v.optional? (Json.list? Json.text?) "if-domain"
  let unlessDomain ← v.optional? (Json.list? Json.text?) "unless-domain"
  let resourceType ← v.optional? (Json.list? ResourceType.ofJson?) "resource-type"
  let loadType ← v.optional? (Json.list? LoadType.ofJson?) "load-type"
  some { urlFilter, caseSensitive, ifDomain, unlessDomain, resourceType, loadType }

/-- An action from its written form. -/
def Action.ofJson? (v : Json) : Option Action := do
  let type ← v.required? ActionType.ofJson? "type"
  let selector ← v.optional? Json.text? "selector"
  let css ← v.optional? Json.text? "css"
  let script ← v.optional? Json.text? "script"
  let scriptlet ← v.optional? Json.text? "scriptlet"
  let scriptletParam ← v.optional? Json.text? "scriptletParam"
  some { type, selector, css, script, scriptlet, scriptletParam }

/-- An entry from its written form. -/
def Entry.ofJson? (v : Json) : Option Entry := do
  let trigger ← v.required? Trigger.ofJson? "trigger"
  let action ← v.required? Action.ofJson? "action"
  some { trigger, action }

/-- The entries of a content blocker from its text. -/
def readEntries? (text : String) : Option (List Entry) := do
  let v ← Json.read text
  v.list? Entry.ofJson?

/-! ## What is written is what is taken -/

theorem Json.list?_ofStrings (ss : List String) : (ofStrings ss).list? text? = some ss :=
  list?_arr_map (f := .str) (fun _ => rfl) ss

theorem ResourceType.ofJson?_toJson (type : ResourceType) : ofJson? type.toJson = some type := by
  cases type <;> rfl

theorem LoadType.ofJson?_name (type : LoadType) : ofJson? (.str type.name) = some type := by
  cases type <;> rfl

theorem ActionType.ofJson?_name (type : ActionType) : ofJson? (.str type.name) = some type := by
  cases type <;> rfl

theorem LoadType.list?_ofStrings (types : List LoadType) :
    (Json.ofStrings (types.map (·.name))).list? ofJson? = some types := by
  rw [Json.ofStrings, List.map_map]
  exact Json.list?_arr_map ofJson?_name types

theorem Trigger.ofJson?_toJson (t : Trigger) : ofJson? t.toJson = some t := by
  have hfilter : t.toJson.required? Json.text? "url-filter" = some t.urlFilter :=
    Json.required?_of_field? (f := .str) (fun _ => rfl) (by simp [toJson])
  have hcase : t.toJson.optional? Json.bool? "url-filter-is-case-sensitive" =
      some t.caseSensitive :=
    Json.optional?_of_field? (f := .bool) (fun _ => rfl) (by simp [toJson])
  have hif : t.toJson.optional? (Json.list? Json.text?) "if-domain" = some t.ifDomain :=
    Json.optional?_of_field? Json.list?_ofStrings (by simp [toJson])
  have hunless : t.toJson.optional? (Json.list? Json.text?) "unless-domain" =
      some t.unlessDomain :=
    Json.optional?_of_field? Json.list?_ofStrings (by simp [toJson])
  have htypes : t.toJson.optional? (Json.list? ResourceType.ofJson?) "resource-type" =
      some t.resourceType :=
    Json.optional?_of_field? (Json.list?_arr_map ResourceType.ofJson?_toJson) (by simp [toJson])
  have hload : t.toJson.optional? (Json.list? LoadType.ofJson?) "load-type" = some t.loadType :=
    Json.optional?_of_field? LoadType.list?_ofStrings (by simp [toJson])
  rw [ofJson?, hfilter, hcase, hif, hunless, htypes, hload]
  rfl

theorem Action.ofJson?_toJson (a : Action) : ofJson? a.toJson = some a := by
  have htype : a.toJson.required? ActionType.ofJson? "type" = some a.type :=
    Json.required?_of_field? ActionType.ofJson?_name (by simp [toJson])
  have htext (name : String) (value : Option String)
      (hfield : a.toJson.field? name = value.map .str) :
      a.toJson.optional? Json.text? name = some value :=
    Json.optional?_of_field? (f := .str) (fun _ => rfl) hfield
  rw [ofJson?, htype, htext "selector" a.selector (by simp [toJson]),
    htext "css" a.css (by simp [toJson]), htext "script" a.script (by simp [toJson]),
    htext "scriptlet" a.scriptlet (by simp [toJson]),
    htext "scriptletParam" a.scriptletParam (by simp [toJson])]
  rfl

/-- **An entry is taken from its written form as it was**, with the same properties absent. -/
theorem Entry.ofJson?_toJson (e : Entry) : ofJson? e.toJson = some e := by
  have htrigger : e.toJson.required? Trigger.ofJson? "trigger" = some e.trigger :=
    Json.required?_of_field? Trigger.ofJson?_toJson (by simp [toJson])
  have haction : e.toJson.required? Action.ofJson? "action" = some e.action :=
    Json.required?_of_field? Action.ofJson?_toJson (by simp [toJson])
  rw [ofJson?, htrigger, haction]
  rfl

end ContentBlocker
