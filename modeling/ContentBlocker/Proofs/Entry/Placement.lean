import ContentBlocker.Proofs.Entry.WireForm
import ContentBlocker.Proofs.Text.Occurrence

/-!
# Where the text of an entry can stand

Every entry is written as an object whose first member is its trigger, and nothing else in the text
of a content blocker starts like that: the objects inside an entry start with other members, and
inside a string a quotation mark has a backslash before it, so that no brace stands right before
one.  The one place that needs care is the end of a string that ends in a brace; what follows the
closing mark there is never the name of a member (`HoldsNoEntry`).

So the text of an entry stands in the text of a content blocker exactly where that entry is listed
(`serializeEntries_eq_iff`).  The functions that search the text follow: `replaceChars` replaces the
entries that are equal to the one that is looked for and leaves the others as they are
(`replaceChars_serializeEntries`), and `pieces` cuts at each of them (`length_pieces_serializeEntries`).
-/

set_option autoImplicit false
namespace ContentBlocker

open Json (quoteChars escapeChar bracketed memberText)
open Text (Avoids avoids_append avoids_of_not_mem avoids_cons_of_ne occursIn pieces replaceChars)

/-- What the text of every entry starts with. -/
def entryOpening : List Char :=
  '\x7b' :: quoteChars "trigger".toList

/-- No entry starts within a text as long as no `t` follows it. -/
def HoldsNoEntry (s : List Char) : Prop :=
  ∀ (c : Char) (rest : List Char), c ≠ 't' → Avoids entryOpening s (c :: rest)

theorem holdsNoEntry_of_not_mem {s : List Char} (h : '\x7b' ∉ s) : HoldsNoEntry s :=
  fun _ _ _ => avoids_of_not_mem h

theorem HoldsNoEntry.append_cons {s t : List Char} {c : Char} (hs : HoldsNoEntry s)
    (hc : c ≠ 't') (ht : HoldsNoEntry (c :: t)) : HoldsNoEntry (s ++ c :: t) :=
  fun d rest hd => avoids_append.2 ⟨hs c _ hc, ht d rest hd⟩

theorem HoldsNoEntry.cons {s : List Char} {c : Char} (hc : c ≠ '\x7b') (hs : HoldsNoEntry s) :
    HoldsNoEntry (c :: s) :=
  fun d rest hd => (avoids_cons_of_ne hc).2 (hs d rest hd)

/-! ## Strings -/

/-- The characters that escapes are written with. -/
def escapeAlphabet : List Char :=
  "\"\\btnfru0123456789abcdef".toList

private theorem hexDigit_mem_escapeAlphabet : ∀ n < 16, Json.hexDigit n ∈ escapeAlphabet := by
  decide

/-- A character that escapes are not written with is written only for itself. -/
theorem not_mem_escapeChar {c d : Char} (hd : d ∉ escapeAlphabet) (h : c ≠ d) :
    d ∉ escapeChar c := by
  suffices hall : escapeChar c ⊆ escapeAlphabet ∨ escapeChar c = [c] by
    rcases hall with hall | hall
    · exact fun hmem => hd (hall hmem)
    · rw [hall]
      simpa using h.symm
  unfold escapeChar
  iterate 7 (split; · exact .inl (by decide))
  split
  · have hhigh := hexDigit_mem_escapeAlphabet (c.toNat / 16) (by omega)
    have hlast := hexDigit_mem_escapeAlphabet (c.toNat % 16) (by omega)
    refine .inl (List.append_subset.2 ⟨(by decide : ['\\', 'u', '0', '0'] ⊆ escapeAlphabet), ?_⟩)
    exact List.cons_subset.2 ⟨hhigh, List.cons_subset.2 ⟨hlast, List.nil_subset _⟩⟩
  · exact .inr rfl

/-- What is written for a character never starts with a quotation mark. -/
theorem escapeChar_eq_cons (c : Char) : ∃ d s, escapeChar c = d :: s ∧ d ≠ '"' := by
  unfold escapeChar
  iterate 7 (split; · exact ⟨_, _, rfl, by decide⟩)
  split
  · exact ⟨_, _, rfl, by decide⟩
  · rename_i h _ _ _ _ _ _ _
    exact ⟨c, [], rfl, h⟩

theorem holdsNoEntry_quoteChars (s : List Char) : HoldsNoEntry (quoteChars s) := by
  have hinside : HoldsNoEntry (s.flatMap escapeChar ++ ['"']) := by
    induction s with
    | nil => exact holdsNoEntry_of_not_mem (by decide)
    | cons c s ih =>
      intro d rest hd
      rw [List.flatMap_cons, List.append_assoc]
      refine avoids_append.2 ⟨?_, ih d rest hd⟩
      by_cases hc : c = '\x7b'
      · subst hc
        refine ⟨fun hpre => ?_, Text.avoids_nil⟩
        -- behind the brace comes what is written for another character, or the closing mark
        cases s with
        | nil =>
          simp [entryOpening, quoteChars, escapeChar] at hpre
          exact hd hpre.1.symm
        | cons c' s =>
          obtain ⟨d', s', hesc, hd'⟩ := escapeChar_eq_cons c'
          simp [entryOpening, quoteChars, hesc] at hpre
          exact hd' hpre.1.symm
      · exact avoids_of_not_mem (not_mem_escapeChar (by decide) hc)
  exact hinside.cons (by decide)

/-! ## Values -/

/-- Items with commas between them, and a closing bracket. -/
theorem holdsNoEntry_intercalate {closing : Char} (hbrace : closing ≠ '\x7b') (ht : closing ≠ 't')
    {items : List (List Char)} (h : ∀ x ∈ items, HoldsNoEntry x) :
    HoldsNoEntry ([','].intercalate items ++ [closing]) := by
  have hclosing : HoldsNoEntry [closing] := holdsNoEntry_of_not_mem (by simpa using hbrace.symm)
  induction items with
  | nil => exact hclosing
  | cons x items ih =>
    have hx := h x List.mem_cons_self
    have ih := ih fun y hy => h y (List.mem_cons_of_mem _ hy)
    cases items with
    | nil =>
      rw [List.intercalate_singleton]
      exact hx.append_cons ht hclosing
    | cons y items =>
      rw [List.intercalate_cons_cons, List.append_assoc, List.append_assoc]
      exact hx.append_cons (by decide) (ih.cons (by decide))

theorem holdsNoEntry_arr {vs : List Json} (h : ∀ v ∈ vs, HoldsNoEntry v.chars) :
    HoldsNoEntry (Json.arr vs).chars := by
  rw [Json.chars_arr, bracketed]
  refine (holdsNoEntry_intercalate (by decide) (by decide) fun x hx => ?_).cons (by decide)
  obtain ⟨v, hv, rfl⟩ := List.mem_map.1 hx
  exact h v hv

theorem holdsNoEntry_memberText {m : String × Json} (h : HoldsNoEntry m.2.chars) :
    HoldsNoEntry (memberText Json.chars m) :=
  (holdsNoEntry_quoteChars _).append_cons (by decide) (h.cons (by decide))

/-- The members of an object and its closing bracket. -/
theorem holdsNoEntry_members {ms : List (String × Json)} (h : ∀ m ∈ ms, HoldsNoEntry m.2.chars) :
    HoldsNoEntry ([','].intercalate (ms.map (memberText Json.chars)) ++ ['\x7d']) := by
  refine holdsNoEntry_intercalate (by decide) (by decide) fun x hx => ?_
  obtain ⟨m, hm, rfl⟩ := List.mem_map.1 hx
  exact holdsNoEntry_memberText (h m hm)

/-- An object whose first member cannot be taken for the trigger of an entry. -/
theorem holdsNoEntry_obj {name : String} {v : Json} {ms : List (String × Json)}
    (hname : ∀ rest, ¬ entryOpening <+: '\x7b' :: (quoteChars name.toList ++ rest))
    (h : ∀ m ∈ (name, v) :: ms, HoldsNoEntry m.2.chars) :
    HoldsNoEntry (Json.obj ((name, v) :: ms)).chars := by
  intro c rest hc
  obtain ⟨t, ht⟩ : ∃ t, [','].intercalate (((name, v) :: ms).map (memberText Json.chars)) ++
      ['\x7d'] = quoteChars name.toList ++ t := by
    cases ms <;> simp [memberText]
  rw [Json.chars_obj, bracketed, List.cons_append]
  refine ⟨?_, holdsNoEntry_members h c rest hc⟩
  rw [ht, List.append_assoc]
  exact hname _

theorem Trigger.holdsNoEntry (t : Trigger) : HoldsNoEntry t.toJson.chars := by
  have hstr : ∀ s, HoldsNoEntry (Json.str s).chars := fun s => holdsNoEntry_quoteChars s.toList
  obtain ⟨ms, ht, hms⟩ := t.exists_members (P := fun v => HoldsNoEntry v.chars) hstr
    (fun b => by cases b <;> exact holdsNoEntry_of_not_mem (by decide))
    (holdsNoEntry_of_not_mem (by decide)) fun _ => holdsNoEntry_arr
  rw [ht]
  refine holdsNoEntry_obj (fun rest h => ?_) (List.forall_mem_cons.2 ⟨hstr _, hms⟩)
  simp [entryOpening, quoteChars, escapeChar] at h

theorem Action.holdsNoEntry (a : Action) : HoldsNoEntry a.toJson.chars := by
  have hstr : ∀ s, HoldsNoEntry (Json.str s).chars := fun s => holdsNoEntry_quoteChars s.toList
  obtain ⟨ms, ha, hms⟩ := a.exists_members (P := fun v => HoldsNoEntry v.chars) hstr
  rw [ha]
  refine holdsNoEntry_obj (fun rest h => ?_) (List.forall_mem_cons.2 ⟨hstr _, hms⟩)
  simp [entryOpening, quoteChars, escapeChar] at h

/-! ## Entries -/

/-- An entry starts where its text does, and no other starts within it. -/
theorem Entry.chars_eq_cons (e : Entry) :
    ∃ s, e.chars = '\x7b' :: s ∧ HoldsNoEntry s ∧ entryOpening <+: e.chars := by
  have hmembers : ∀ m ∈ [("trigger", e.trigger.toJson), ("action", e.action.toJson)],
      HoldsNoEntry m.2.chars := by
    intro m hm
    simp only [List.mem_cons, List.not_mem_nil, or_false] at hm
    rcases hm with rfl | rfl
    · exact e.trigger.holdsNoEntry
    · exact e.action.holdsNoEntry
  refine ⟨_, ?_, holdsNoEntry_members hmembers, ?_⟩
  · rw [Entry.chars, Entry.toJson, Json.chars_obj, bracketed, List.cons_append]
  · rw [Entry.chars, Entry.toJson, Json.chars_obj, bracketed, List.map_cons, List.map_singleton,
      List.intercalate_cons_cons, memberText]
    simp only [List.cons_append, List.append_assoc, entryOpening, List.cons_prefix_cons, true_and,
      List.prefix_append]

theorem Entry.chars_ne_nil (e : Entry) : e.chars ≠ [] := by
  obtain ⟨s, hs, -⟩ := e.chars_eq_cons
  rw [hs]
  exact List.cons_ne_nil _ _

/-- The text of an entry does not stand where another one starts, nor within it. -/
theorem Entry.avoids_of_ne {d e : Entry} (hne : d ≠ e) {c : Char} (hc : c ≠ 't')
    (rest : List Char) : Avoids e.chars d.chars (c :: rest) := by
  obtain ⟨s, hs, hnone, -⟩ := d.chars_eq_cons
  obtain ⟨-, -, -, hopening⟩ := e.chars_eq_cons
  rw [hs]
  refine ⟨?_, (hnone c rest hc).of_start hopening⟩
  rintro ⟨after, hafter⟩
  rw [← List.cons_append, ← hs] at hafter
  exact hne (Entry.eq_of_chars_append_eq hafter).1.symm

/-! ## Content blockers -/

/-- What stands before an entry in the text of a content blocker, given the entries before it. -/
def textBefore (front : List Entry) : List Char :=
  '[' :: front.flatMap fun e => e.chars ++ [',']

/-- What stands behind an entry in the text of a content blocker, given the entries behind it. -/
def textAfter (back : List Entry) : List Char :=
  back.flatMap (fun e => ',' :: e.chars) ++ [']']

/-- What is behind an entry starts with a comma or the closing bracket. -/
theorem textAfter_eq_cons (back : List Entry) :
    ∃ c s, textAfter back = c :: s ∧ c ≠ 't' ∧ c ≠ '\x7b' := by
  cases back with
  | nil => exact ⟨']', [], rfl, by decide, by decide⟩
  | cons e back => exact ⟨',', _, rfl, by decide, by decide⟩

theorem textAfter_cons (e : Entry) (back : List Entry) :
    textAfter (e :: back) = ',' :: (e.chars ++ textAfter back) := by
  rw [textAfter, List.flatMap_cons, List.append_assoc, List.cons_append, textAfter]

/-- The first of some items stands for itself, and each of the others behind a separator. -/
theorem intercalate_cons (c : Char) (x : List Char) (xs : List (List Char)) :
    [c].intercalate (x :: xs) = x ++ xs.flatMap (c :: ·) := by
  induction xs generalizing x with
  | nil => simp
  | cons y xs ih =>
    rw [List.intercalate_cons_cons, ih y, List.flatMap_cons, List.append_assoc]
    rfl

/-- Items before and behind one of them. -/
theorem intercalate_append_cons (c : Char) (xs ys : List (List Char)) (x : List Char) :
    [c].intercalate (xs ++ x :: ys) = xs.flatMap (· ++ [c]) ++ x ++ ys.flatMap (c :: ·) := by
  induction xs with
  | nil => rw [List.nil_append, intercalate_cons]; rfl
  | cons y xs ih =>
    rw [List.cons_append, List.intercalate_cons_of_ne_nil (by simp), ih]
    simp

theorem serializeEntries_append_cons (front back : List Entry) (e : Entry) :
    (serializeEntries (front ++ e :: back)).toList =
      textBefore front ++ e.chars ++ textAfter back := by
  rw [toList_serializeEntries, bracketed, List.map_append, List.map_cons, intercalate_append_cons,
    List.flatMap_map, List.flatMap_map, textBefore, textAfter]
  simp

theorem serializeEntries_cons (e : Entry) (es : List Entry) :
    (serializeEntries (e :: es)).toList = '[' :: (e.chars ++ textAfter es) :=
  serializeEntries_append_cons [] es e

theorem intercalate_append {sep : List Char} {xs ys : List (List Char)} (hxs : xs ≠ [])
    (hys : ys ≠ []) :
    sep.intercalate (xs ++ ys) = sep.intercalate xs ++ sep ++ sep.intercalate ys := by
  induction xs with
  | nil => exact absurd rfl hxs
  | cons x xs ih =>
    by_cases hnil : xs = []
    · rw [hnil, List.singleton_append, List.intercalate_cons_of_ne_nil hys,
        List.intercalate_singleton]
    · rw [List.cons_append, List.intercalate_cons_of_ne_nil (by simp [hys]), ih hnil,
        List.intercalate_cons_of_ne_nil hnil]
      simp only [List.append_assoc]

/-- More entries go before the closing bracket. -/
theorem serializeEntries_append {es es' : List Entry} (hes : es ≠ []) (hes' : es' ≠ []) :
    (serializeEntries (es ++ es')).toList =
      (serializeEntries es).toList.dropLast ++ ',' :: [','].intercalate (es'.map Entry.chars) ++
        [']'] := by
  rw [toList_serializeEntries, toList_serializeEntries, bracketed, bracketed, List.dropLast_concat,
    List.map_append, intercalate_append (mt List.map_eq_nil_iff.1 hes) (mt List.map_eq_nil_iff.1 hes')]
  simp only [List.append_assoc, List.cons_append, List.nil_append]

/-- An occurrence in what stands behind some entry is one of the entries there. -/
private theorem textAfter_eq {back : List Entry} {e : Entry} {before after : List Char}
    (h : textAfter back = before ++ e.chars ++ after) :
    ∃ front back', back = front ++ e :: back' ∧
      before = ',' :: front.flatMap (fun d => d.chars ++ [',']) ∧ after = textAfter back' := by
  obtain ⟨-, -, -, hopening⟩ := e.chars_eq_cons
  induction back generalizing before with
  | nil =>
    have hnone : Avoids e.chars [']'] [] :=
      (avoids_of_not_mem (by decide)).of_start hopening
    obtain ⟨before', -, hnil⟩ := hnone.eq_append_of_eq h
    simp [e.chars_ne_nil] at hnil
  | cons d back ih =>
    have hcomma : Avoids e.chars [','] (d.chars ++ textAfter back) :=
      (avoids_of_not_mem (by decide)).of_start hopening
    rw [textAfter_cons] at h
    obtain ⟨before, rfl, hd⟩ := hcomma.eq_append_of_eq h
    cases before with
    | nil =>
      obtain ⟨rfl, rfl⟩ := Entry.eq_of_chars_append_eq hd
      exact ⟨[], back, rfl, rfl, rfl⟩
    | cons c before =>
      obtain ⟨s, hs, hnone, -⟩ := d.chars_eq_cons
      obtain ⟨c', rest, hrest, hc', -⟩ := textAfter_eq_cons back
      have havoids : Avoids e.chars s (textAfter back) := by
        rw [hrest]
        exact (hnone c' rest hc').of_start hopening
      rw [hs, List.cons_append, List.cons_append, List.cons_append, List.cons.injEq] at hd
      obtain ⟨before, rfl, hback⟩ := havoids.eq_append_of_eq hd.2
      obtain ⟨front, back', rfl, rfl, rfl⟩ := ih hback
      refine ⟨d :: front, back', rfl, ?_, rfl⟩
      rw [← hd.1, List.flatMap_cons, hs]
      simp

private theorem textBefore_append_cons (front middle : List Entry) (e : Entry) :
    textBefore (front ++ e :: middle) =
      textBefore front ++ e.chars ++ ',' :: middle.flatMap fun d => d.chars ++ [','] := by
  rw [textBefore, textBefore, List.flatMap_append, List.flatMap_cons]
  simp

/-- **The text of an entry stands exactly where the entry is listed**: it starts where that element
of the array starts, and it ends where the element ends. -/
theorem serializeEntries_eq_iff {es : List Entry} {e : Entry} {before after : List Char} :
    (serializeEntries es).toList = before ++ e.chars ++ after ↔
      ∃ front back, es = front ++ e :: back ∧ before = textBefore front ∧
        after = textAfter back := by
  constructor
  · intro h
    obtain ⟨-, -, -, hopening⟩ := e.chars_eq_cons
    have hbracket : ∀ rest, Avoids e.chars ['['] rest :=
      fun rest => (avoids_of_not_mem (by decide)).of_start hopening
    cases es with
    | nil =>
      -- the closing bracket is what stands behind no entry
      obtain ⟨before, -, hclose⟩ := (hbracket (textAfter [])).eq_append_of_eq h
      obtain ⟨front, back, hnil, -, -⟩ := textAfter_eq hclose
      simp at hnil
    | cons d es =>
      rw [serializeEntries_cons] at h
      obtain ⟨before, rfl, htail⟩ :=
        (hbracket (d.chars ++ textAfter es)).eq_append_of_eq h
      have hafter : textAfter (d :: es) = ',' :: before ++ e.chars ++ after := by
        rw [textAfter_cons, htail]
        rfl
      obtain ⟨front, back, hes, hbefore, rfl⟩ := textAfter_eq hafter
      rw [List.cons.injEq] at hbefore
      exact ⟨front, back, hes, by rw [hbefore.2]; rfl, rfl⟩
  · rintro ⟨front, back, rfl, rfl, rfl⟩
    exact serializeEntries_append_cons front back e

/-- The text of an entry occurs in that of a content blocker if the entry is listed. -/
theorem occursIn_serializeEntries {es : List Entry} {e : Entry} :
    occursIn e.chars (serializeEntries es).toList = true ↔ e ∈ es := by
  rw [Text.occursIn_iff, List.mem_iff_append]
  constructor
  · rintro ⟨before, after, h⟩
    obtain ⟨front, back, hes, -, -⟩ := serializeEntries_eq_iff.1 h.symm
    exact ⟨front, back, hes⟩
  · rintro ⟨front, back, rfl⟩
    exact ⟨textBefore front, textAfter back, (serializeEntries_append_cons front back e).symm⟩

/-- Two occurrences of an entry are apart. -/
theorem length_lt_of_serializeEntries_eq {es : List Entry} {e : Entry}
    {before after before' after' : List Char}
    (h : (serializeEntries es).toList = before ++ e.chars ++ after)
    (h' : (serializeEntries es).toList = before' ++ e.chars ++ after')
    (hlt : before.length < before'.length) :
    before.length + e.chars.length < before'.length := by
  obtain ⟨front, back, hes, rfl, -⟩ := serializeEntries_eq_iff.1 h
  obtain ⟨front', back', hes', rfl, -⟩ := serializeEntries_eq_iff.1 h'
  rw [hes] at hes'
  obtain ⟨middle, hfront, hback⟩ | ⟨middle, hfront, hback⟩ := List.append_eq_append_iff.1 hes'
  · cases middle with
    | nil =>
      rw [hfront, List.append_nil] at hlt
      exact absurd hlt (Nat.lt_irrefl _)
    | cons d middle =>
      obtain rfl : e = d := (List.cons.inj hback).1
      rw [hfront, textBefore_append_cons]
      simp only [List.length_append, List.length_cons]
      omega
  · cases middle with
    | nil =>
      rw [hfront, List.append_nil] at hlt
      exact absurd hlt (Nat.lt_irrefl _)
    | cons d middle =>
      rw [hfront, textBefore_append_cons] at hlt
      simp only [List.length_append, List.length_cons] at hlt
      omega

/-! ## Searching a content blocker

A search goes from element to element.  What it finds is told by what it does with a text that it
passes over and by what it does at the entry that it looks for. -/

section
variable (e : Entry)

private theorem search_textAfter {β : Type} (search : List Char → β) (pass : List Char → β → β)
    (hit : β → β)
    (hpass : ∀ s rest, Avoids e.chars s rest → search (s ++ rest) = pass s (search rest))
    (hhit : ∀ c rest, c ≠ 't' → search (e.chars ++ c :: rest) = hit (search (c :: rest)))
    (back : List Entry) :
    search (textAfter back) = back.foldr
      (fun d found => pass [','] (if d = e then hit found else pass d.chars found))
      (pass [']'] (search [])) := by
  obtain ⟨-, -, -, hopening⟩ := e.chars_eq_cons
  have hmark : ∀ c rest, c ≠ '\x7b' → search (c :: rest) = pass [c] (search rest) :=
    fun c rest hc => hpass [c] rest ((avoids_of_not_mem (by simpa using hc.symm)).of_start hopening)
  induction back with
  | nil => exact hmark ']' [] (by decide)
  | cons d back ih =>
    obtain ⟨c, rest, hrest, hc, -⟩ := textAfter_eq_cons back
    rw [textAfter_cons, hmark ',' _ (by decide), List.foldr_cons, ← ih]
    split
    · rename_i h
      rw [h, hrest, hhit c rest hc]
    · rename_i h
      rw [hrest, hpass d.chars _ (Entry.avoids_of_ne h hc rest)]

private theorem replaceChars_textAfter (replacement : List Char) (back : List Entry) :
    replaceChars e.chars replacement (textAfter back) =
      back.flatMap (fun d => ',' :: if d = e then replacement else d.chars) ++ [']'] := by
  rw [search_textAfter e (replaceChars e.chars replacement) (· ++ ·) (replacement ++ ·)
    (fun _ _ => Text.replaceChars_append_of_avoids replacement)
    (fun _ _ _ => Text.replaceChars_self_append replacement e.chars_ne_nil)]
  induction back with
  | nil => rfl
  | cons d back ih =>
    rw [List.foldr_cons, ih, List.flatMap_cons]
    split <;> simp

/-- **Replacing an entry replaces each element that is equal to it** and no other. -/
theorem replaceChars_serializeEntries (replacement : List Char) (es : List Entry) :
    replaceChars e.chars replacement (serializeEntries es).toList =
      bracketed '[' ']' (es.map fun d => if d = e then replacement else d.chars) := by
  obtain ⟨-, -, -, hopening⟩ := e.chars_eq_cons
  have hmark : ∀ c rest, c ≠ '\x7b' → replaceChars e.chars replacement (c :: rest) =
      c :: replaceChars e.chars replacement rest := fun c rest hc =>
    Text.replaceChars_append_of_avoids (s := [c]) _
      ((avoids_of_not_mem (by simpa using hc.symm)).of_start hopening)
  cases es with
  | nil => exact (hmark '[' _ (by decide)).trans (congrArg _ (hmark ']' [] (by decide)))
  | cons d es =>
    have hafter := replaceChars_textAfter e replacement (d :: es)
    rw [textAfter_cons, hmark ',' _ (by decide), List.flatMap_cons, List.append_assoc,
      List.cons_append, List.cons.injEq] at hafter
    rw [serializeEntries_cons, hmark '[' _ (by decide), hafter.2, bracketed, List.map_cons,
      intercalate_cons, List.flatMap_map]
    simp

/-- What counts occurrences finds one for each element that is equal to the entry. -/
private theorem count_serializeEntries (search : List Char → Nat)
    (hpass : ∀ s rest, Avoids e.chars s rest → search (s ++ rest) = search rest)
    (hhit : ∀ c rest, c ≠ 't' → search (e.chars ++ c :: rest) = search (c :: rest) + 1)
    (es : List Entry) :
    search (serializeEntries es).toList = es.count e + search [] := by
  obtain ⟨-, -, -, hopening⟩ := e.chars_eq_cons
  have hmark : ∀ c rest, c ≠ '\x7b' → search (c :: rest) = search rest := fun c rest hc =>
    hpass [c] rest ((avoids_of_not_mem (by simpa using hc.symm)).of_start hopening)
  have hafter : ∀ back, search (textAfter back) = back.count e + search [] := by
    intro back
    rw [search_textAfter e search (fun _ n => n) (· + 1) hpass hhit]
    induction back with
    | nil => simp
    | cons d back ih =>
      rw [List.foldr_cons, ih, List.count_cons]
      simp only [beq_iff_eq]
      split <;> omega
  cases es with
  | nil => exact (hmark '[' _ (by decide)).trans (hafter [])
  | cons d es =>
    rw [← hafter, textAfter_cons, serializeEntries_cons, hmark '[' _ (by decide),
      hmark ',' _ (by decide)]

/-- An entry stands at as many places as it is listed. -/
theorem placeCount_serializeEntries (es : List Entry) :
    Text.placeCount e.chars (serializeEntries es).toList = es.count e := by
  obtain ⟨s, hs, hnone, hopening⟩ := e.chars_eq_cons
  refine count_serializeEntries e (Text.placeCount e.chars)
    (fun _ _ => Text.placeCount_append_of_avoids) (fun c rest hc => ?_) es
  have hself : Avoids e.chars s (c :: rest) := (hnone c rest hc).of_start hopening
  rw [hs] at hself ⊢
  exact Text.placeCount_self_append hself

/-- An entry cuts the text into one piece more than it is listed. -/
theorem length_pieces_serializeEntries (es : List Entry) :
    (pieces e.chars (serializeEntries es).toList).length = es.count e + 1 :=
  count_serializeEntries e (fun text => (pieces e.chars text).length)
    (fun s rest h => by rw [Text.pieces_append_of_avoids h, List.length_modifyHead])
    (fun c rest _ => by rw [Text.pieces_self_append e.chars_ne_nil, List.length_cons]) es

end

end ContentBlocker
