import Mathlib.Data.List.Forall2
import ContentBlocker.Proofs.Allowlist.Gaps

/-!
# Entries without runs of commas

Leaving one comma of every run of commas in the text of a value leaves the text of a value: commas
stand next to each other only within a string, and there no escape is written with them.  So the text
becomes that of the value with one comma in place of every run of commas in each of its strings
(`Json.SqueezesTo`).

For an entry that is `Entry.squeezed`.  So the repair of commas does not make a text that is no longer
that of entries, but it may change the entries (`squeezeCommas_serializeEntries`).
-/

set_option autoImplicit false
namespace ContentBlocker

open Json (bracketed quoteChars escapeChar memberText)
open List (Forall₂)

/-! ## Strings -/

/-- A text with one comma in place of every run of commas. -/
def squeezeText (s : String) : String :=
  String.ofList (squeezeCommas s.toList)

theorem squeezeText_eq_self {s : String} (h : ',' ∉ s.toList) : squeezeText s = s := by
  rw [squeezeText, squeezeCommas_of_not_mem h, String.ofList_toList]

theorem comma_not_mem_escapeChar {c : Char} (hc : c ≠ ',') : ',' ∉ escapeChar c :=
  not_mem_escapeChar (by decide) hc

/-- What is written for a text begins with a comma if the text does. -/
theorem head?_flatMap_escapeChar (s : List Char) :
    (s.flatMap escapeChar).head? = some ',' ↔ s.head? = some ',' := by
  cases s with
  | nil => exact Iff.rfl
  | cons c s =>
    by_cases hc : c = ','
    · rw [hc]
      exact iff_of_true rfl rfl
    · obtain ⟨d, t, hescape, -⟩ := escapeChar_eq_cons c
      have hd : d ≠ ',' := by
        rintro rfl
        exact comma_not_mem_escapeChar hc (hescape ▸ List.mem_cons_self)
      rw [List.flatMap_cons, hescape]
      exact iff_of_false (fun h => hd (Option.some.inj h)) fun h => hc (Option.some.inj h)

/-- Commas are written for themselves and for nothing else. -/
theorem squeezeCommas_flatMap_escapeChar (s : List Char) :
    squeezeCommas (s.flatMap escapeChar) = (squeezeCommas s).flatMap escapeChar := by
  induction s with
  | nil => rfl
  | cons c s ih =>
    rw [List.flatMap_cons]
    by_cases hc : c = ','
    · subst hc
      show consComma ',' (squeezeCommas (s.flatMap escapeChar)) =
        (consComma ',' (squeezeCommas s)).flatMap escapeChar
      rw [ih, consComma, consComma]
      simp only [head?_flatMap_escapeChar]
      split <;> rfl
    · have hnone := comma_not_mem_escapeChar hc
      have hlast : (escapeChar c).getLast? ≠ some ',' :=
        fun h => hnone (List.mem_of_getLast? h)
      rw [squeezeCommas_append_of_apart fun h => absurd h hlast, squeezeCommas_of_not_mem hnone, ih,
        squeezeCommas_cons hc, List.flatMap_cons]

theorem squeezeCommas_quoteChars (s : List Char) :
    squeezeCommas (quoteChars s) = quoteChars (squeezeCommas s) := by
  have hmark : squeezeCommas (s.flatMap escapeChar ++ ['"']) =
      squeezeCommas (s.flatMap escapeChar) ++ ['"'] :=
    squeezeCommas_append_of_apart fun _ => by decide
  rw [quoteChars, List.cons_append, squeezeCommas_cons (by decide), hmark,
    squeezeCommas_flatMap_escapeChar]
  rfl

theorem isWord_quoteChars (s : List Char) : IsWord (quoteChars s) :=
  ⟨⟨'"', _, by decide, rfl⟩, ⟨'"' :: s.flatMap escapeChar, '"', by decide, rfl⟩⟩

/-! ## Values -/

namespace Json

/-- Leaving one comma of every run of commas in the text of the first value gives the text of the
second one. -/
structure SqueezesTo (v w : Json) : Prop where
  isWord : IsWord v.chars
  squeeze : squeezeCommas v.chars = w.chars

/-- Members of the same name whose values are related. -/
inductive MemberSqueezesTo : String × Json → String × Json → Prop
  | mk {name : String} {v w : Json} (hname : ',' ∉ name.toList) (h : SqueezesTo v w) :
    MemberSqueezesTo (name, v) (name, w)

theorem squeezesTo_str (s : String) : SqueezesTo (.str s) (.str (squeezeText s)) := by
  refine ⟨isWord_quoteChars _, ?_⟩
  rw [chars, chars, squeezeText, String.toList_ofList, squeezeCommas_quoteChars]

/-- A value without commas in its text stays as it is. -/
theorem squeezesTo_self {v : Json} (h : IsWord v.chars) (hnone : ',' ∉ v.chars) : SqueezesTo v v :=
  ⟨h, squeezeCommas_of_not_mem hnone⟩

theorem squeezesTo_bool (b : Bool) : SqueezesTo (.bool b) (.bool b) := by
  cases b with
  | true => exact squeezesTo_self ⟨⟨'t', _, by decide, rfl⟩, ⟨"tru".toList, _, by decide, rfl⟩⟩ (by decide)
  | false =>
    exact squeezesTo_self ⟨⟨'f', _, by decide, rfl⟩, ⟨"fals".toList, _, by decide, rfl⟩⟩ (by decide)

theorem squeezesTo_null : SqueezesTo .null .null :=
  squeezesTo_self ⟨⟨'n', _, by decide, rfl⟩, ⟨"nul".toList, _, by decide, rfl⟩⟩ (by decide)

theorem isWord_bracketed {opening closing : Char} (hopening : opening ≠ ',') (hclosing : closing ≠ ',')
    (ws : List (List Char)) : IsWord (bracketed opening closing ws) :=
  ⟨⟨opening, _, hopening, rfl⟩, ⟨opening :: [','].intercalate ws, closing, hclosing, rfl⟩⟩

/-- Items that are related one by one. -/
theorem squeezesTo_bracketed {α β : Type} {R : α → β → Prop} {f : α → List Char}
    {g : β → List Char} (hR : ∀ a b, R a b → IsWord (f a) ∧ squeezeCommas (f a) = g b)
    {opening closing : Char} (hopening : opening ≠ ',') (hclosing : closing ≠ ',') {as : List α}
    {bs : List β} (h : Forall₂ R as bs) :
    squeezeCommas (bracketed opening closing (as.map f)) = bracketed opening closing (bs.map g) := by
  have hwords : (∀ w ∈ as.map f, IsWord w) ∧ (as.map f).map squeezeCommas = bs.map g := by
    induction h with
    | nil => exact ⟨nofun, rfl⟩
    | cons hab _ ih =>
      obtain ⟨hword, hsqueeze⟩ := hR _ _ hab
      rw [List.map_cons, List.map_cons, List.map_cons, hsqueeze, ih.2]
      exact ⟨List.forall_mem_cons.2 ⟨hword, ih.1⟩, rfl⟩
  rw [squeezeCommas_bracketed_words hopening hclosing hwords.1, hwords.2]

theorem squeezesTo_arr {vs ws : List Json} (h : Forall₂ SqueezesTo vs ws) :
    SqueezesTo (.arr vs) (.arr ws) := by
  have hopening : '[' ≠ ',' := by decide
  have hclosing : ']' ≠ ',' := by decide
  refine ⟨isWord_bracketed hopening hclosing _, ?_⟩
  rw [chars_arr, chars_arr]
  exact squeezesTo_bracketed (fun v w hvw => ⟨hvw.isWord, hvw.squeeze⟩) hopening hclosing h

theorem MemberSqueezesTo.memberText {m n : String × Json} (h : MemberSqueezesTo m n) :
    IsWord (memberText chars m) ∧ squeezeCommas (memberText chars m) = memberText chars n := by
  cases h with
  | @mk name v w hname h =>
    obtain ⟨t, c, hc, hv⟩ := h.isWord.last
    refine ⟨⟨⟨'"', _, by decide, rfl⟩, ⟨quoteChars name.toList ++ ':' :: t, c, hc, ?_⟩⟩, ?_⟩
    · rw [Json.memberText, hv, List.append_assoc, List.cons_append]
    · rw [Json.memberText, Json.memberText, squeezeCommas_word_append (isWord_quoteChars _),
        squeezeCommas_cons (by decide), squeezeCommas_quoteChars, squeezeCommas_of_not_mem hname,
        h.squeeze]

theorem squeezesTo_obj {ms ns : List (String × Json)} (h : Forall₂ MemberSqueezesTo ms ns) :
    SqueezesTo (.obj ms) (.obj ns) := by
  have hopening : '\x7b' ≠ ',' := by decide
  have hclosing : '\x7d' ≠ ',' := by decide
  refine ⟨isWord_bracketed hopening hclosing _, ?_⟩
  rw [chars_obj, chars_obj]
  exact squeezesTo_bracketed (fun _ _ hmn => hmn.memberText) hopening hclosing h

end Json

/-! ## Entries -/

theorem forall₂_optionalMember {α : Type} {name : String} {toJson : α → Json} {f : α → α}
    (hname : ',' ∉ name.toList) (h : ∀ a, Json.SqueezesTo (toJson a) (toJson (f a)))
    (value : Option α) : Forall₂ Json.MemberSqueezesTo (optionalMember name toJson value)
      (optionalMember name toJson (value.map f)) := by
  cases value with
  | none => exact .nil
  | some a => exact .cons (.mk hname (h a)) .nil

theorem forall₂_optionalMember_self {α : Type} {name : String} {toJson : α → Json}
    (hname : ',' ∉ name.toList) (h : ∀ a, Json.SqueezesTo (toJson a) (toJson a))
    (value : Option α) : Forall₂ Json.MemberSqueezesTo (optionalMember name toJson value)
      (optionalMember name toJson value) := by
  have hmap := forall₂_optionalMember (f := id) hname h value
  rwa [Option.map_id] at hmap

/-- The trigger with one comma in place of every run of commas in its texts. -/
def Trigger.squeezed (t : Trigger) : Trigger :=
  { t with
    urlFilter := squeezeText t.urlFilter
    ifDomain := t.ifDomain.map (·.map squeezeText)
    unlessDomain := t.unlessDomain.map (·.map squeezeText) }

/-- The action with one comma in place of every run of commas in its texts. -/
def Action.squeezed (a : Action) : Action where
  type := a.type
  selector := a.selector.map squeezeText
  css := a.css.map squeezeText
  script := a.script.map squeezeText
  scriptlet := a.scriptlet.map squeezeText
  scriptletParam := a.scriptletParam.map squeezeText

/-- The entry with one comma in place of every run of commas in its texts. -/
def Entry.squeezed (e : Entry) : Entry :=
  ⟨e.trigger.squeezed, e.action.squeezed⟩

theorem Json.squeezesTo_ofStrings (ss : List String) :
    SqueezesTo (ofStrings ss) (ofStrings (ss.map squeezeText)) := by
  refine squeezesTo_arr ?_
  rw [List.forall₂_map_left_iff, List.forall₂_map_right_iff, List.forall₂_map_right_iff,
    List.forall₂_same]
  exact fun s _ => squeezesTo_str s

/-- A value whose text is put together from names stays as it is. -/
theorem Json.squeezesTo_arr_self {vs : List Json} (h : ∀ v ∈ vs, SqueezesTo v v) :
    SqueezesTo (.arr vs) (.arr vs) :=
  squeezesTo_arr (List.forall₂_same.2 h)

theorem Json.squeezesTo_str_self {s : String} (h : ',' ∉ s.toList) :
    SqueezesTo (.str s) (.str s) := by
  have hs := squeezesTo_str s
  rwa [squeezeText_eq_self h] at hs

theorem Trigger.squeezesTo (t : Trigger) : Json.SqueezesTo t.toJson t.squeezed.toJson := by
  rw [toJson, toJson]
  refine Json.squeezesTo_obj <| List.rel_append (List.rel_append (List.rel_append (List.rel_append
    (.cons (.mk (by decide) (Json.squeezesTo_str _)) ?_) ?_) ?_) ?_) ?_
  · exact forall₂_optionalMember_self (by decide) Json.squeezesTo_bool t.caseSensitive
  · exact forall₂_optionalMember (by decide) Json.squeezesTo_ofStrings t.ifDomain
  · exact forall₂_optionalMember (by decide) Json.squeezesTo_ofStrings t.unlessDomain
  · refine forall₂_optionalMember_self (by decide) (fun types => ?_) t.resourceType
    refine Json.squeezesTo_arr_self fun v hv => ?_
    obtain ⟨type, -, rfl⟩ := List.mem_map.1 hv
    cases type <;> first | exact Json.squeezesTo_str_self (by decide) | exact Json.squeezesTo_null
  · refine forall₂_optionalMember_self (by decide) (fun types => ?_) t.loadType
    refine Json.squeezesTo_arr_self fun v hv => ?_
    rw [List.map_map] at hv
    obtain ⟨type, -, rfl⟩ := List.mem_map.1 hv
    cases type <;> exact Json.squeezesTo_str_self (by decide)

theorem Action.squeezesTo (a : Action) : Json.SqueezesTo a.toJson a.squeezed.toJson := by
  have htype : ',' ∉ a.type.name.toList := by
    cases a.type <;> decide
  rw [toJson, toJson]
  refine Json.squeezesTo_obj <| List.rel_append (List.rel_append (List.rel_append (List.rel_append
    (.cons (.mk (by decide) (Json.squeezesTo_str_self htype)) ?_) ?_) ?_) ?_) ?_
  all_goals exact forall₂_optionalMember (by decide) Json.squeezesTo_str _

/-- **Leaving one comma of every run of commas in the text of an entry gives the text of an entry.** -/
theorem Entry.squeezeCommas_chars (e : Entry) : squeezeCommas e.chars = e.squeezed.chars :=
  (Json.squeezesTo_obj <| .cons (.mk (by decide) e.trigger.squeezesTo) <|
    .cons (.mk (by decide) e.action.squeezesTo) .nil).squeeze

theorem squeezeCommas_serializeEntries (es : List Entry) :
    squeezeCommas (serializeEntries es).toList =
      (serializeEntries (es.map Entry.squeezed)).toList := by
  have hwords : ∀ w ∈ es.map Entry.chars, IsWord w := by
    intro w hw
    obtain ⟨e, -, rfl⟩ := List.mem_map.1 hw
    exact e.isObjectText.isWord
  have hmap : (es.map Entry.chars).map squeezeCommas = (es.map Entry.squeezed).map Entry.chars := by
    rw [List.map_map, List.map_map]
    exact List.map_congr_left fun e _ => e.squeezeCommas_chars
  rw [toList_serializeEntries, toList_serializeEntries,
    squeezeCommas_bracketed_words (by decide) (by decide) hwords, hmap]

end ContentBlocker
