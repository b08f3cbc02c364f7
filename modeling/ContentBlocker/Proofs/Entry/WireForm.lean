import ContentBlocker.Proofs.Entry.Decoding
import ContentBlocker.Proofs.Json.ReadBack

/-!
# What the written form of an entry says

The written form of an entry says everything about the entry (`Entry.toJson_injective`): which
optional properties there are, and what they are, since the entry can be taken from it again.  It has
no numbers in it, so it can be read back, and the text of an entry is never the start of the text of
another one (`Entry.eq_of_chars_append_eq`).  Both together say that the entries of a content blocker
are read back from its text (`reading_undoes_writing`).
-/

set_option autoImplicit false
namespace ContentBlocker

open Json (NumberFree)

/-- **The written form of an entry says everything about it.** -/
theorem Entry.toJson_injective {d e : Entry} (h : d.toJson = e.toJson) : d = e := by
  have hread := congrArg Entry.ofJson? h
  rw [Entry.ofJson?_toJson, Entry.ofJson?_toJson] at hread
  exact Option.some.inj hread

@[simp] theorem Entry.toJson_inj {d e : Entry} : d.toJson = e.toJson ↔ d = e :=
  ⟨Entry.toJson_injective, fun h => by rw [h]⟩

/-! ## Properties of all that is written

What holds of strings, of truth values and of `null`, and of an array if it holds of its elements,
holds of every member of a trigger and of an action. -/

theorem forall_optionalMember {α : Type} {toJson : α → Json} {name : String} {value : Option α}
    {P : Json → Prop} (h : ∀ v, P (toJson v)) : ∀ m ∈ optionalMember name toJson value, P m.2 := by
  intro m hm
  obtain ⟨v, -, rfl⟩ := List.mem_map.1 hm
  exact h v

section
variable {P : Json → Prop} (hstr : ∀ s, P (.str s)) (hbool : ∀ b, P (.bool b)) (hnull : P .null)
  (harr : ∀ vs, (∀ v ∈ vs, P v) → P (.arr vs))
include hstr

include hbool hnull harr in
theorem Trigger.exists_members (t : Trigger) :
    ∃ ms, t.toJson = .obj (("url-filter", .str t.urlFilter) :: ms) ∧ ∀ m ∈ ms, P m.2 := by
  have hmap : ∀ {α : Type} (f : α → Json) (as : List α), (∀ a, P (f a)) → P (.arr (as.map f)) := by
    intro α f as hf
    refine harr _ fun v hv => ?_
    obtain ⟨a, -, rfl⟩ := List.mem_map.1 hv
    exact hf a
  simp only [Trigger.toJson, List.cons_append]
  refine ⟨_, rfl, fun m hm => ?_⟩
  simp only [List.mem_append] at hm
  rcases hm with (((hm | hm) | hm) | hm) | hm
  · exact forall_optionalMember hbool m hm
  · exact forall_optionalMember (fun ss => hmap _ ss hstr) m hm
  · exact forall_optionalMember (fun ss => hmap _ ss hstr) m hm
  · refine forall_optionalMember (fun types => hmap _ types fun type => ?_) m hm
    cases type <;> first | exact hstr _ | exact hnull
  · exact forall_optionalMember (fun types => hmap _ _ hstr) m hm

theorem Action.exists_members (a : Action) :
    ∃ ms, a.toJson = .obj (("type", .str a.type.name) :: ms) ∧ ∀ m ∈ ms, P m.2 := by
  simp only [Action.toJson, List.cons_append]
  refine ⟨_, rfl, fun m hm => ?_⟩
  simp only [List.mem_append] at hm
  rcases hm with (((hm | hm) | hm) | hm) | hm
  all_goals exact forall_optionalMember hstr m hm

end

/-! ## Texts -/

theorem Trigger.numberFree_toJson (t : Trigger) : NumberFree t.toJson := by
  obtain ⟨ms, ht, hms⟩ := t.exists_members NumberFree.str NumberFree.bool .null fun _ => .arr
  rw [ht]
  exact .obj (List.forall_mem_cons.2 ⟨.str _, hms⟩)

theorem Action.numberFree_toJson (a : Action) : NumberFree a.toJson := by
  obtain ⟨ms, ha, hms⟩ := a.exists_members NumberFree.str
  rw [ha]
  exact .obj (List.forall_mem_cons.2 ⟨.str _, hms⟩)

theorem Entry.numberFree_toJson (e : Entry) : NumberFree e.toJson := by
  refine .obj fun m hm => ?_
  simp only [List.mem_cons, List.not_mem_nil, or_false] at hm
  rcases hm with rfl | rfl
  · exact e.trigger.numberFree_toJson
  · exact e.action.numberFree_toJson

/-- The characters of an entry. -/
def Entry.chars (e : Entry) : List Char :=
  e.toJson.chars

theorem Entry.toList_serialize (e : Entry) : e.serialize.toList = e.chars :=
  String.toList_ofList

theorem toList_serializeEntries (es : List Entry) :
    (serializeEntries es).toList = Json.bracketed '[' ']' (es.map Entry.chars) := by
  rw [serializeEntries, Json.compact, String.toList_ofList, Json.chars_arr, List.map_map]
  rfl

/-- **The text of an entry ends where the entry ends.** -/
theorem Entry.eq_of_chars_append_eq {d e : Entry} {x y : List Char}
    (h : d.chars ++ x = e.chars ++ y) : d = e ∧ x = y := by
  obtain ⟨hde, hxy⟩ := d.numberFree_toJson.eq_of_chars_append_eq e.numberFree_toJson h
  exact ⟨Entry.toJson_injective hde, hxy⟩

theorem Entry.chars_injective {d e : Entry} (h : d.chars = e.chars) : d = e :=
  (Entry.eq_of_chars_append_eq (x := []) (y := []) (by rw [h])).1

/-- **A content blocker is read back as the array of its entries.** -/
theorem read_serializeEntries (es : List Entry) :
    Json.read (serializeEntries es) = some (.arr (es.map Entry.toJson)) := by
  refine NumberFree.read_compact (.arr fun v hv => ?_)
  obtain ⟨e, -, rfl⟩ := List.mem_map.1 hv
  exact e.numberFree_toJson

/-- A content blocker is the texts of its entries, with commas between them and in brackets. -/
theorem serializeEntries_eq_intercalate (es : List Entry) :
    serializeEntries es = "[" ++ ",".intercalate (es.map (·.serialize)) ++ "]" := by
  have hchars : (String.toList ∘ fun e : Entry => e.serialize) = Entry.chars :=
    funext Entry.toList_serialize
  refine String.toList_injective ?_
  rw [toList_serializeEntries, String.toList_append, String.toList_append,
    String.toList_intercalate, List.map_map, hchars]
  rfl

theorem readEntries?_serializeEntries (es : List Entry) :
    readEntries? (serializeEntries es) = some es := by
  rw [readEntries?, read_serializeEntries]
  exact Json.list?_arr_map Entry.ofJson?_toJson es

theorem serializeEntries_injective {es es' : List Entry}
    (h : serializeEntries es = serializeEntries es') : es = es' := by
  have hread := congrArg readEntries? h
  rw [readEntries?_serializeEntries, readEntries?_serializeEntries] at hread
  exact Option.some.inj hread

theorem Entry.serialize_injective {d e : Entry} (h : d.serialize = e.serialize) : d = e := by
  refine Entry.chars_injective ?_
  rw [← d.toList_serialize, ← e.toList_serialize, h]

/-- **Reading undoes writing.**  The text of a content blocker, which is the texts of its entries
between commas, is read as the array of their written forms in their order, and from these the
entries are taken as they were.  Two entries have the same text only if they agree in every property,
also in whether it is there. -/
theorem reading_undoes_writing :
    (∀ es : List Entry,
      serializeEntries es = "[" ++ ",".intercalate (es.map (·.serialize)) ++ "]" ∧
      Json.read (serializeEntries es) = some (.arr (es.map Entry.toJson)) ∧
      readEntries? (serializeEntries es) = some es) ∧
    ∀ d e : Entry, d.serialize = e.serialize ↔
      (d.trigger.urlFilter = e.trigger.urlFilter ∧
        d.trigger.caseSensitive = e.trigger.caseSensitive ∧
        d.trigger.ifDomain = e.trigger.ifDomain ∧
        d.trigger.unlessDomain = e.trigger.unlessDomain ∧
        d.trigger.resourceType = e.trigger.resourceType ∧
        d.trigger.loadType = e.trigger.loadType) ∧
      d.action.type = e.action.type ∧ d.action.selector = e.action.selector ∧
      d.action.css = e.action.css ∧ d.action.script = e.action.script ∧
      d.action.scriptlet = e.action.scriptlet ∧
      d.action.scriptletParam = e.action.scriptletParam := by
  refine ⟨fun es => ⟨serializeEntries_eq_intercalate es, read_serializeEntries es,
    readEntries?_serializeEntries es⟩, fun d e => ?_⟩
  constructor
  · intro h
    obtain rfl := Entry.serialize_injective h
    exact ⟨⟨rfl, rfl, rfl, rfl, rfl, rfl⟩, rfl, rfl, rfl, rfl, rfl, rfl⟩
  · obtain ⟨⟨_, _, _, _, _, _⟩, ⟨_, _, _, _, _, _⟩⟩ := d
    obtain ⟨⟨_, _, _, _, _, _⟩, ⟨_, _, _, _, _, _⟩⟩ := e
    rintro ⟨⟨rfl, rfl, rfl, rfl, rfl, rfl⟩, rfl, rfl, rfl, rfl, rfl, rfl⟩
    rfl

end ContentBlocker
