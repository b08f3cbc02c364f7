import ContentBlocker.Proofs.Rule.Reading
import ContentBlocker.Proofs.Text.Lowercase
import Mathlib.Data.List.Forall2
import Mathlib.Tactic.FinCases

/-!
# How domains and modifiers are written

What a rule is made of can be written in more than one way: the case of letters does not count, some
modifiers go by several names, and a value that a modifier has no use for may stand behind it.
`ListedDomain.Spells` and `Modifier.Spells` say in which ways a domain and a modifier can be written
and what is meant, without regard to how they are read.  Reading gives back what was meant, for one
of them (`ListedDomain.ofChars_of_spells`, `Modifier.ofChars_of_spells`) and for a list with
separators (`ListedDomain.readList_of_spells`, `Modifier.readList_of_spells`).
-/

set_option autoImplicit false
namespace ContentBlocker

/-! ## Lists with separators -/

/-- A list is read element by element. -/
theorem mapM_eq_ok_iff_forall₂ {ε α β : Type} {read : α → Except ε β} {xs : List α} {ys : List β} :
    xs.mapM read = .ok ys ↔ List.Forall₂ (fun x y => read x = .ok y) xs ys := by
  constructor
  · intro h
    induction xs generalizing ys with
    | nil =>
      cases h
      exact .nil
    | cons x xs ih =>
      rw [List.mapM_cons, bind_eq_ok_iff] at h
      obtain ⟨y, hy, h⟩ := h
      obtain ⟨rest, hrest, h⟩ := bind_eq_ok_iff.1 h
      cases h
      exact .cons hy (ih hrest)
  · intro h
    induction h with
    | nil => rfl
    | cons hread _ ih =>
      rw [List.mapM_cons, hread, ih]
      rfl

/-- A text that is an element of a list as it stands. -/
structure IsElement (separator : Char) (s : List Char) : Prop where
  ne_nil : s ≠ []
  separator_not_mem : separator ∉ s
  trimChars_eq : Text.trimChars s = s

/-- Between separators stand the elements that were put there. -/
theorem ListedDomain.parts_intercalate {separator : Char} {texts : List (List Char)}
    (h : ∀ s ∈ texts, IsElement separator s) :
    parts separator ([separator].intercalate texts) = texts := by
  by_cases hne : texts = []
  · rw [hne]
    rfl
  · rw [parts, List.splitOn_intercalate separator (fun s hs => (h s hs).separator_not_mem) hne,
      List.map_congr_left fun s hs => (h s hs).trimChars_eq, List.map_id', List.filter_eq_self]
    intro s hs
    rw [List.isEmpty_eq_false_iff.2 (h s hs).ne_nil]
    rfl

theorem Modifier.parts_intercalate {texts : List (List Char)}
    (h : ∀ s ∈ texts, IsElement ',' s) : parts ([','].intercalate texts) = texts :=
  ListedDomain.parts_intercalate h

/-- A text without blanks. -/
def Text.NoBlanks (s : List Char) : Prop :=
  ∀ c ∈ s, isBlank c = false

instance : DecidablePred Text.NoBlanks := fun s =>
  decidable_of_iff (s.all (!Text.isBlank ·) = true) (by simp [Text.NoBlanks])

theorem Text.NoBlanks.trimChars_eq {s : List Char} (h : NoBlanks s) : trimChars s = s :=
  trimChars_eq_self (fun c hc => h c (List.mem_of_head? hc))
    fun c hc => h c (List.mem_of_getLast? hc)

/-! ## Domains -/

/-- A tilde or nothing. -/
def tilde (present : Bool) : List Char :=
  if present then ['~'] else []

theorem eq_of_mem_tilde {present : Bool} {c : Char} (h : c ∈ tilde present) : c = '~' := by
  cases present with
  | true => exact List.mem_singleton.1 h
  | false => cases h

/-- How a domain of a rule can be written: in any letter case, and behind a tilde if the rule does
not apply there. -/
inductive ListedDomain.Spells : List Char → ListedDomain → Prop
  | intro (restricted : Bool) {letters : List Char} {name : String}
      (isDomainName : IsDomainName name) (lowerChars_eq : Text.lowerChars letters = name.toList)
      (noBlanks : Text.NoBlanks letters) :
      Spells (tilde restricted ++ letters) ⟨restricted, name⟩

namespace ListedDomain

/-- An ASCII character without a capital form that has no place in a domain. -/
structure IsForeign (c : Char) : Prop where
  ascii : c.toNat < 0x80
  toLower_eq : c.toLower = c
  not_isDomainChar : isDomainChar c = false

theorem isForeign_tilde : IsForeign '~' :=
  ⟨by decide, rfl, rfl⟩

theorem isForeign_comma : IsForeign ',' :=
  ⟨by decide, rfl, rfl⟩

theorem isForeign_bar : IsForeign '|' :=
  ⟨by decide, rfl, rfl⟩

theorem IsForeign.not_mem {c : Char} (hc : IsForeign c) {letters : List Char} {name : String}
    (hname : IsDomainName name) (hlower : Text.lowerChars letters = name.toList) :
    c ∉ letters := by
  intro hmem
  have hchar := hname.isDomainChar c (hlower ▸ Text.mem_lowerChars hc.ascii hc.toLower_eq hmem)
  rw [hc.not_isDomainChar] at hchar
  cases hchar

theorem ofChars_of_spells {s : List Char} {d : ListedDomain} (h : Spells s d) :
    ofChars s = .ok d := by
  obtain @⟨restricted, letters, name, hname, hlower, -⟩ := h
  have hne : name.toList ≠ [] := fun hnil => hname.ne_empty (String.toList_inj.1 hnil)
  have hread : ofName restricted letters = .ok ⟨restricted, name⟩ := by
    rw [ofName, hlower, if_pos, String.ofList_toList]
    rw [Bool.and_eq_true, Bool.not_eq_true', List.isEmpty_eq_false_iff, List.all_eq_true]
    exact ⟨hne, hname.isDomainChar⟩
  cases restricted with
  | true => exact hread
  | false =>
    show ofChars letters = _
    rw [ofChars]
    · exact hread
    · rintro rest rfl
      exact isForeign_tilde.not_mem hname hlower List.mem_cons_self

section
variable {separator : Char} (hseparator : IsForeign separator) (htilde : separator ≠ '~')
include hseparator htilde

theorem isElement_of_spells {s : List Char} {d : ListedDomain} (h : Spells s d) :
    IsElement separator s := by
  obtain @⟨restricted, letters, name, hname, hlower, hblanks⟩ := h
  refine ⟨fun hnil => ?_, fun hmem => ?_, Text.NoBlanks.trimChars_eq fun c hc => ?_⟩
  · rw [(List.append_eq_nil_iff.1 hnil).2] at hlower
    exact hname.ne_empty (String.toList_inj.1 hlower.symm)
  · rcases List.mem_append.1 hmem with hmem | hmem
    · exact htilde (eq_of_mem_tilde hmem)
    · exact hseparator.not_mem hname hlower hmem
  · rcases List.mem_append.1 hc with hc | hc
    · exact eq_of_mem_tilde hc ▸ rfl
    · exact hblanks c hc

/-- **What is written as a list of domains is read as those domains.** -/
theorem readList_of_spells {texts : List (List Char)} {domains : List ListedDomain}
    (h : List.Forall₂ Spells texts domains) :
    readList separator ([separator].intercalate texts) = .ok domains := by
  have helement := ((List.forall₂_and_left _ _).1 (h.imp fun s d hd =>
    ⟨isElement_of_spells hseparator htilde hd, hd⟩)).1
  rw [readList, parts_intercalate helement]
  exact mapM_eq_ok_iff_forall₂.2 (h.imp fun _ _ => ofChars_of_spells)

end
end ListedDomain

/-! ## Names of modifiers -/

/-- A name by which a modifier is documented, what it says, and what it says behind a tilde if it
may stand there. -/
structure ModifierName where
  name : String
  plain : Modifier
  negated? : Option Modifier

namespace ModifierName

/-- A name of a content type that can be excluded. -/
def ofType (name : String) (type : ContentType) : ModifierName :=
  ⟨name, .contentType false type, some (.contentType true type)⟩

/-- All names but that of the modifier that needs a value. -/
def all : List ModifierName :=
  [⟨"all", .contentType false .all, none⟩, ofType "image" .image,
   ofType "stylesheet" .stylesheet, ofType "css" .stylesheet, ofType "script" .script,
   ofType "media" .media, ofType "xmlhttprequest" .xmlHttpRequest, ofType "xhr" .xmlHttpRequest,
   ofType "other" .other, ofType "websocket" .webSocket, ofType "ping" .ping, ofType "font" .font,
   ofType "subdocument" .subdocument, ofType "frame" .subdocument, ofType "object" .object,
   ofType "object-subrequest" .objectSubrequest, ofType "webrtc" .webRtc,
   ⟨"third-party", .party true, some (.party false)⟩, ⟨"3p", .party true, some (.party false)⟩,
   ⟨"first-party", .party false, some (.party true)⟩, ⟨"1p", .party false, some (.party true)⟩,
   ⟨"match-case", .matchCase true, some (.matchCase false)⟩,
   ⟨"document", .document false, some (.document true)⟩,
   ⟨"doc", .document false, some (.document true)⟩, ⟨"replace", .replace, none⟩]

/-- What a name says behind a tilde or without one. -/
def meaning? (entry : ModifierName) (negated : Bool) : Option Modifier :=
  if negated then entry.negated? else some entry.plain

end ModifierName

/-- How a modifier can be written.  The case of its name does not count. -/
inductive Modifier.Spells : List Char → Modifier → Prop
  /-- A name, perhaps behind a tilde, and perhaps with a value that does not count. -/
  | named (negated : Bool) {entry : ModifierName} (mem_all : entry ∈ ModifierName.all)
      {modifier : Modifier} (meaning_eq : entry.meaning? negated = some modifier)
      {letters : List Char} (lowerChars_eq : Text.lowerChars letters = entry.name.toList)
      {value : List Char}
      (value_eq : value = [] ∨ value.head? = some '=') :
      Spells (tilde negated ++ letters ++ value) modifier
  /-- Domains with bars between them. -/
  | domain {letters : List Char} (lowerChars_eq : Text.lowerChars letters = "domain".toList)
      {texts : List (List Char)} {domains : List ListedDomain}
      (spells : List.Forall₂ ListedDomain.Spells texts domains) (ne_nil : domains ≠ []) :
      Spells (letters ++ '=' :: ['|'].intercalate texts) (.domain domains)

namespace Modifier

/-- A name and what stands behind it. -/
theorem split_eq (negated : Bool) {letters : List Char} {name : String}
    (hlower : Text.lowerChars letters = name.toList) (htilde : '~' ∉ name.toList)
    (hequals : '=' ∉ name.toList) {value : List Char}
    (hvalue : value = [] ∨ value.head? = some '=') :
    split (tilde negated ++ letters ++ value) = (negated, name, value.drop 1) := by
  have hletters {c : Char} (hascii : c.toNat < 0x80) (hc : c.toLower = c) (h : c ∉ name.toList) :
      c ∉ letters := fun hmem => h (hlower ▸ Text.mem_lowerChars hascii hc hmem)
  have htake : (letters ++ value).takeWhile (· != '=') = letters := by
    rw [List.takeWhile_append_of_pos]
    · rcases hvalue with rfl | hvalue
      · rw [List.takeWhile_nil, List.append_nil]
      · obtain ⟨rest, rfl⟩ := List.head?_eq_some_iff.1 hvalue
        rw [List.takeWhile_cons_of_neg (by simp), List.append_nil]
    · intro c hc
      simpa using fun heq : c = '=' => hletters (by decide) rfl hequals (heq ▸ hc)
  have hparts : ∀ raw, raw = letters ++ value →
      (negated, String.ofList (Text.lowerChars (raw.takeWhile (· != '='))),
        raw.drop ((raw.takeWhile (· != '=')).length + 1)) = (negated, name, value.drop 1) := by
    rintro raw rfl
    rw [htake, hlower, String.ofList_toList, List.drop_length_add_append]
  cases negated with
  | true => exact hparts _ rfl
  | false =>
    show split (letters ++ value) = _
    rw [split]
    · exact hparts _ rfl
    · intro raw heq
      cases letters with
      | nil =>
        rw [List.nil_append] at heq
        rw [heq] at hvalue
        rcases hvalue with hvalue | hvalue <;> cases hvalue
      | cons c letters =>
        obtain ⟨rfl, -⟩ := List.cons.inj heq
        exact hletters (by decide) rfl htilde List.mem_cons_self

theorem ofChars_of_split {entry : ModifierName} (hentry : entry ∈ ModifierName.all) {negated : Bool}
    {modifier : Modifier} (hmeaning : entry.meaning? negated = some modifier) {s value : List Char}
    (hsplit : split s = (negated, entry.name, value)) : ofChars s = .ok modifier := by
  rw [ofChars, hsplit]
  clear hsplit
  -- one case for each name, without a tilde and behind one
  rw [ModifierName.all] at hentry
  fin_cases hentry <;> cases negated <;> cases hmeaning <;> rfl

/-- **A modifier is read as what its name means**, however it is written. -/
theorem ofChars_of_spells {s : List Char} {modifier : Modifier} (h : Spells s modifier) :
    ofChars s = .ok modifier := by
  cases h with
  | named negated hentry hmeaning hlower hvalue =>
    have hplain : ∀ entry ∈ ModifierName.all,
        '~' ∉ entry.name.toList ∧ '=' ∉ entry.name.toList := by decide
    obtain ⟨htilde, hequals⟩ := hplain _ hentry
    exact ofChars_of_split hentry hmeaning (split_eq negated hlower htilde hequals hvalue)
  | @domain letters hlower texts domains hspells hne =>
    have hsplit : split (letters ++ '=' :: ['|'].intercalate texts) =
        (false, "domain", ['|'].intercalate texts) :=
      split_eq false hlower (by decide) (by decide) (.inr rfl)
    have hread := ListedDomain.readList_of_spells ListedDomain.isForeign_bar (by decide) hspells
    have hvalue : ['|'].intercalate texts ≠ [] := by
      intro hnil
      rw [hnil] at hread
      exact hne (Except.ok.inj hread).symm
    rw [ofChars, hsplit]
    dsimp only
    rw [List.isEmpty_eq_false_iff.2 hvalue, hread]
    rfl

/-- A text that keeps apart from other modifiers and from what else there is in a rule. -/
structure IsPlainOption (s : List Char) : Prop where
  noBlanks : Text.NoBlanks s
  comma_not_mem : ',' ∉ s
  sharp_not_mem : '#' ∉ s

instance : DecidablePred IsPlainOption := fun s =>
  decidable_of_iff (Text.NoBlanks s ∧ ',' ∉ s ∧ '#' ∉ s)
    ⟨fun ⟨hblanks, hcomma, hsharp⟩ => ⟨hblanks, hcomma, hsharp⟩,
      fun h => ⟨h.noBlanks, h.comma_not_mem, h.sharp_not_mem⟩⟩

/-- **What is written as a list of modifiers is read as those modifiers.** -/
theorem readList_of_spells {texts : List (List Char)} {modifiers : List Modifier}
    (h : List.Forall₂ Spells texts modifiers) (hplain : ∀ s ∈ texts, IsPlainOption s) :
    readList ([','].intercalate texts) = .ok modifiers := by
  have hread : List.Forall₂ (fun s modifier => ofChars s = .ok modifier) texts modifiers :=
    h.imp fun _ _ => ofChars_of_spells
  have hne : ∀ s ∈ texts, s ≠ [] := by
    refine ((List.forall₂_and_left _ _).1 (hread.imp fun s modifier hs => ⟨?_, hs⟩)).1
    rintro rfl
    cases hs
  have helement : ∀ s ∈ texts, IsElement ',' s := fun s hs => {
    ne_nil := hne s hs
    separator_not_mem := (hplain s hs).comma_not_mem
    trimChars_eq := (hplain s hs).noBlanks.trimChars_eq }
  rw [readList, parts_intercalate helement]
  exact mapM_eq_ok_iff_forall₂.2 hread

end Modifier
end ContentBlocker
