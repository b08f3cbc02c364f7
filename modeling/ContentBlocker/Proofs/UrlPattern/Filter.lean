import ContentBlocker.Proofs.Regex.Texts
import ContentBlocker.UrlPattern.Basic

/-!
# The regular expression of a pattern, read back

`UrlPattern.filterChars` writes a pattern as a regular expression.  Read back, that expression has
one part for each character of the pattern, with the parts of the two anchors around them
(`parse?_filterChars`).  None of the parts is a construct that the url-filter language lacks, so a
pattern has a url-filter exactly if it is ASCII (`check_toFilter`).

A quantifier looks at the character behind it, because a question mark there would make it
reluctant.  So what is written for a character is read as that character only where no question mark
follows, and nothing that is written for a character starts with one (`head?_charFilter_append`).
-/

set_option autoImplicit false
namespace ContentBlocker

open Regex

namespace Regex

/-! ## Reading tokens one after another -/

/-- An expression is read as some tokens up to a rest that is not looked into. -/
inductive Reads (groups : Nat) (rest : List Char) : List Char → List Lexeme → Prop
  | refl : Reads groups rest rest []
  | step {c : Char} {s left : List Char} {t : Token} {ls : List Lexeme} (text : List Char) :
      readToken groups c s = some (t, left) → c :: s = text ++ left →
      Reads groups rest left ls → Reads groups rest (c :: s) (⟨t, text⟩ :: ls)

namespace Reads

variable {groups : Nat} {s middle rest : List Char} {ls ms : List Lexeme}

theorem trans (h : Reads groups middle s ls) (h' : Reads groups rest middle ms) :
    Reads groups rest s (ls ++ ms) := by
  induction h with
  | refl => exact h'
  | step text hread htext _ ih => exact .step text hread htext ih

theorem lexemes_eq (h : Reads groups [] s ls) : lexemes groups s = some ls := by
  induction h with
  | refl => rw [lexemes]
  | step text hread htext _ ih =>
    rw [lexemes]
    split
    · rename_i hnone
      rw [hread] at hnone
      cases hnone
    · rename_i hsome
      rw [hread] at hsome
      cases hsome
      rw [ih, Option.map_some, htext, textBefore_append]

end Reads

theorem quantifierToken_of_head?_ne (least : Nat) (most : Option Nat) (braced : Bool)
    {rest : List Char} (h : rest.head? ≠ some '?') :
    quantifierToken least most braced rest = (.quantifier ⟨least, most, false, braced⟩, rest) := by
  cases rest with
  | nil => rfl
  | cons c rest =>
    have hc : c ≠ '?' := fun hc => h (by rw [hc, List.head?_cons])
    rw [quantifierToken]
    rintro _ ⟨rfl, -⟩
    exact hc rfl

theorem readSetItems_closing (rest : List Char) : readSetItems (']' :: rest) = some ([], rest) := by
  rw [readSetItems]

theorem readSetItems_of_part {s rest left : List Char} {items more all : List SetItem}
    (hs : s.head? ≠ some ']') (hpart : readSetPart s = some (items, rest))
    (hall : items ++ more = all) (hrest : readSetItems rest = some (more, left)) :
    readSetItems s = some (all, left) := by
  rw [readSetItems]
  · split
    · rename_i hnone
      rw [hpart] at hnone
      cases hnone
    · rename_i hsome
      rw [hpart] at hsome
      cases hsome
      rw [hrest, ← hall]
      rfl
  · rintro left rfl
    exact hs rfl

theorem readToken_set {s rest : List Char} {items : List SetItem} (groups : Nat)
    (hs : s.head? ≠ some '^') (h : readSetItems s = some (items, rest)) :
    readToken groups '[' s = some (.atom (.set false items), rest) := by
  have hset : readSet s = some (.set false items, rest) := by
    rw [readSet, h, Option.map_some]
    rintro left rfl
    exact hs rfl
  rw [readToken, hset, Option.map_some]

/-! ## Trees of parts in a row -/

/-- A sequence of parts. -/
def Node.ofParts (parts : List Node) : Node :=
  parts.foldr .seq .empty

theorem Node.constructs_ofParts (parts : List Node) :
    (Node.ofParts parts).constructs = parts.flatMap (·.constructs) := by
  induction parts with
  | nil => rfl
  | cons part parts ih =>
    show part.constructs ++ (Node.ofParts parts).constructs = _
    rw [ih, List.flatMap_cons]

theorem Node.ofParts_injective {parts parts' : List Node}
    (h : Node.ofParts parts = .ofParts parts') : parts = parts' := by
  induction parts generalizing parts' with
  | nil =>
    cases parts' with
    | nil => rfl
    | cons _ _ => cases h
  | cons part parts ih =>
    cases parts' with
    | nil => cases h
    | cons part' parts' =>
      injection h with hhead htail
      rw [hhead, ih htail]

/-- Some tokens are read as some parts, behind whatever there is in a group already. -/
def TreeOf (ls : List Lexeme) (nodes : List Node) : Prop :=
  ∃ parts : List Part, parts.map Part.node = nodes ∧ ∀ (g : OpenGroup) (ms : List Lexeme),
    Node.ofLexemesFrom? [] g (ls ++ ms) =
      Node.ofLexemesFrom? [] { g with parts := parts.reverse ++ g.parts } ms

namespace TreeOf

variable {ls ms : List Lexeme} {nodes nodes' : List Node}

theorem nil : TreeOf [] [] :=
  ⟨[], rfl, fun _ _ => rfl⟩

theorem append (h : TreeOf ls nodes) (h' : TreeOf ms nodes') :
    TreeOf (ls ++ ms) (nodes ++ nodes') := by
  obtain ⟨parts, rfl, hls⟩ := h
  obtain ⟨parts', rfl, hms⟩ := h'
  refine ⟨parts ++ parts', List.map_append, fun g ns => ?_⟩
  rw [List.append_assoc, hls, hms, List.reverse_append, List.append_assoc]

/-- The parts of an alternative are a sequence. -/
private theorem node_foldr_seq (parts : List Part) :
    (parts.foldr Part.seq .empty).node = .ofParts (parts.map Part.node) := by
  induction parts with
  | nil => rfl
  | cons part parts ih =>
    show Node.seq part.node (parts.foldr Part.seq .empty).node = _
    rw [ih]
    rfl

theorem ofLexemes?_eq (h : TreeOf ls nodes) : Node.ofLexemes? ls = some (.ofParts nodes) := by
  obtain ⟨parts, rfl, hls⟩ := h
  have htree := hls (.ofKind .plain []) []
  rw [List.append_nil] at htree
  rw [Node.ofLexemes?, htree, Node.ofLexemesFrom?, ← node_foldr_seq]
  simp [OpenGroup.body, OpenGroup.ofKind, OpenGroup.current, List.foldl_reverse]

end TreeOf

end Regex

/-! ## What is written for one character -/

namespace UrlPattern

/-- What stands for the separator. -/
def separatorAtom : Atom :=
  .set false [.char 0x2f, .char 0x3a, .char 0x26, .char 0x3f]

/-- The tokens of a character of a pattern. -/
def charLexemes (c : Char) : List Lexeme :=
  if c = '*' then [⟨.atom .any, ['.']⟩, ⟨.quantifier ⟨0, none, false, false⟩, ['*']⟩]
  else if c = '^' then
    [⟨.atom separatorAtom, "[/:&?]".toList⟩, ⟨.quantifier ⟨0, some 1, false, false⟩, ['?']⟩]
  else [⟨.atom (.char c.toNat), charFilter c⟩]

/-- The part of a regular expression that a character of a pattern stands for. -/
def charPart (c : Char) : Node :=
  if c = '*' then .repetition ⟨0, none, false, false⟩ (charFilter '*') (.atom .any)
  else if c = '^' then .repetition ⟨0, some 1, false, false⟩ (charFilter '^') (.atom separatorAtom)
  else .atom (.char c.toNat)

theorem charPart_constructs (c : Char) : (charPart c).constructs = [] := by
  rw [charPart]
  split
  · rfl
  · split <;> rfl

theorem treeOf_charLexemes (c : Char) : TreeOf (charLexemes c) [charPart c] := by
  refine ⟨[⟨charPart c, charFilter c⟩], rfl, fun g ls => ?_⟩
  rw [charLexemes, charPart]
  split
  · rename_i h
    subst h
    rfl
  · split
    · rename_i h
      subst h
      rfl
    · rfl

/-- A special character behind a backslash is itself. -/
private theorem readToken_of_isSpecial {c : Char} (h : isSpecial c = true) (groups : Nat)
    (rest : List Char) :
    readToken groups '\\' (c :: rest) = some (.atom (.char c.toNat), rest) := by
  have hmem : c ∈ ".+?$\x7b\x7d()[]/\\|".toList := List.contains_iff_mem.1 h
  rcases (by simpa using hmem : c = '.' ∨ c = '+' ∨ c = '?' ∨ c = '$' ∨ c = '\x7b' ∨ c = '\x7d' ∨
    c = '(' ∨ c = ')' ∨ c = '[' ∨ c = ']' ∨ c = '/' ∨ c = '\\' ∨ c = '|') with
    rfl | rfl | rfl | rfl | rfl | rfl | rfl | rfl | rfl | rfl | rfl | rfl | rfl <;> rfl

/-- Any other character is itself, but for the two that a pattern has a use for. -/
private theorem readToken_of_not_isSpecial {c : Char} (h : isSpecial c = false) (hstar : c ≠ '*')
    (hcaret : c ≠ '^') (groups : Nat) (rest : List Char) :
    readToken groups c rest = some (.atom (.char c.toNat), rest) := by
  have hne : ∀ d, isSpecial d = true → c ≠ d := by
    rintro d hd rfl
    rw [hd] at h
    cases h
  rw [readToken]
  · exact hne '|' rfl
  · exact hne '(' rfl
  · exact hne ')' rfl
  · exact hcaret
  · exact hne '$' rfl
  · exact hne '.' rfl
  · exact hstar
  · exact hne '+' rfl
  · exact hne '?' rfl
  · exact hne '\x7b' rfl
  · exact hne '[' rfl
  · exact hne '\\' rfl

private theorem readToken_separator (groups : Nat) (rest : List Char) :
    readToken groups '[' ('/' :: ':' :: '&' :: '?' :: ']' :: rest) =
      some (.atom separatorAtom, rest) :=
  readToken_set groups (by simp) <|
    readSetItems_of_part (by simp) rfl rfl <| readSetItems_of_part (by simp) rfl rfl <|
      readSetItems_of_part (by simp) rfl rfl <| readSetItems_of_part (by simp) rfl rfl <|
        readSetItems_closing rest

/-- What is written for a character is read as that character. -/
theorem reads_charFilter (c : Char) (groups : Nat) {rest : List Char}
    (h : rest.head? ≠ some '?') : Reads groups rest (charFilter c ++ rest) (charLexemes c) := by
  rw [charFilter, charLexemes, charFilter]
  split
  · exact .step _ rfl rfl
      (.step _ (congrArg some (quantifierToken_of_head?_ne 0 none false h)) rfl .refl)
  · rename_i hstar
    split
    · exact .step _ (readToken_separator groups _) rfl
        (.step _ (congrArg some (quantifierToken_of_head?_ne 0 (some 1) false h)) rfl .refl)
    · rename_i hcaret
      split
      · rename_i hspecial
        exact .step _ (readToken_of_isSpecial hspecial groups rest) rfl .refl
      · rename_i hspecial
        exact .step _ (readToken_of_not_isSpecial (Bool.eq_false_iff.2 hspecial) hstar hcaret groups
          rest) rfl .refl

/-- Nothing that is written for a character starts with a question mark. -/
theorem head?_charFilter_append (c : Char) (s : List Char) :
    (charFilter c ++ s).head? ≠ some '?' := by
  rw [charFilter]
  split
  · simp
  · split
    · exact fun h => nomatch h
    · split
      · simp
      · rename_i hspecial
        rintro h
        obtain rfl : c = '?' := by simpa using h
        exact hspecial rfl

theorem head?_flatMap_charFilter_append (body : List Char) {rest : List Char}
    (h : rest.head? ≠ some '?') : (body.flatMap charFilter ++ rest).head? ≠ some '?' := by
  cases body with
  | nil => exact h
  | cons c body =>
    rw [List.flatMap_cons, List.append_assoc]
    exact head?_charFilter_append c _

theorem reads_flatMap_charFilter (body : List Char) (groups : Nat) {rest : List Char}
    (h : rest.head? ≠ some '?') :
    Reads groups rest (body.flatMap charFilter ++ rest) (body.flatMap charLexemes) := by
  induction body with
  | nil => exact .refl
  | cons c body ih =>
    rw [List.flatMap_cons, List.append_assoc, List.flatMap_cons]
    exact (reads_charFilter c groups (head?_flatMap_charFilter_append body h)).trans ih

theorem treeOf_flatMap_charLexemes (body : List Char) :
    TreeOf (body.flatMap charLexemes) (body.map charPart) := by
  induction body with
  | nil => exact .nil
  | cons c body ih =>
    rw [List.flatMap_cons, List.map_cons]
    exact (treeOf_charLexemes c).append ih

end UrlPattern

/-! ## What is written for the anchors -/

namespace StartAnchor

/-- The letters of the schemes of the web. -/
def schemeAtom : Atom :=
  .set false [.char 0x68, .char 0x74, .char 0x70, .char 0x73, .char 0x77]

/-- What a label of a host is made of. -/
def labelAtom : Atom :=
  .set false [.range 0x61 0x7a, .range 0x30 0x39, .char 0x2d]

/-- The tokens of an anchor at the start. -/
def lexemes : StartAnchor → List Lexeme
  | .anywhere => []
  | .url => [⟨.anchor .start, ['^']⟩]
  | .host =>
    [⟨.anchor .start, ['^']⟩, ⟨.atom schemeAtom, "[htpsw]".toList⟩,
      ⟨.quantifier ⟨1, none, false, false⟩, ['+']⟩, ⟨.atom (.char 0x3a), [':']⟩,
      ⟨.atom (.char 0x2f), ['\\', '/']⟩, ⟨.atom (.char 0x2f), ['\\', '/']⟩,
      ⟨.opening (.capture none), ['(']⟩, ⟨.atom labelAtom, "[a-z0-9-]".toList⟩,
      ⟨.quantifier ⟨1, none, false, false⟩, ['+']⟩, ⟨.atom (.char 0x2e), ['\\', '.']⟩,
      ⟨.closing, [')']⟩, ⟨.quantifier ⟨0, some 1, false, false⟩, ['?']⟩]

/-- The parts of a regular expression that an anchor at the start stands for. -/
def parts : StartAnchor → List Node
  | .anywhere => []
  | .url => [.anchor .start]
  | .host =>
    [.anchor .start, .repetition ⟨1, none, false, false⟩ "[htpsw]+".toList (.atom schemeAtom),
      .atom (.char 0x3a), .atom (.char 0x2f), .atom (.char 0x2f),
      .repetition ⟨0, some 1, false, false⟩ "([a-z0-9-]+\\.)?".toList (.group (.capture none)
        (.ofParts [.repetition ⟨1, none, false, false⟩ "[a-z0-9-]+".toList (.atom labelAtom),
          .atom (.char 0x2e)]))]

theorem constructs_parts (a : StartAnchor) : a.parts.flatMap (·.constructs) = [] := by
  cases a <;> rfl

theorem treeOf_lexemes (a : StartAnchor) : TreeOf a.lexemes a.parts := by
  cases a with
  | anywhere => exact .nil
  | url => exact ⟨[⟨.anchor .start, ['^']⟩], rfl, fun _ _ => rfl⟩
  | host =>
    let texts := ["^", "[htpsw]+", ":", "\\/", "\\/", "([a-z0-9-]+\\.)?"].map String.toList
    exact ⟨(parts .host).zipWith Regex.Part.mk texts, rfl, fun _ _ => rfl⟩

/-- What stands between the brackets of the two sets is read item by item. -/
private theorem readToken_scheme (groups : Nat) (rest : List Char) :
    readToken groups '[' ("htpsw]".toList ++ rest) = some (.atom schemeAtom, rest) :=
  readToken_set (s := 'h' :: 't' :: 'p' :: 's' :: 'w' :: ']' :: rest) groups (by simp) <|
    readSetItems_of_part (by simp) rfl rfl <| readSetItems_of_part (by simp) rfl rfl <|
      readSetItems_of_part (by simp) rfl rfl <| readSetItems_of_part (by simp) rfl rfl <|
        readSetItems_of_part (by simp) rfl rfl <| readSetItems_closing rest

private theorem readToken_label (groups : Nat) (rest : List Char) :
    readToken groups '[' ("a-z0-9-]".toList ++ rest) = some (.atom labelAtom, rest) :=
  readToken_set (s := 'a' :: '-' :: 'z' :: '0' :: '-' :: '9' :: '-' :: ']' :: rest) groups
    (by simp) <|
    readSetItems_of_part (by simp) rfl rfl <| readSetItems_of_part (by simp) rfl rfl <|
      readSetItems_of_part (by simp) rfl rfl <| readSetItems_closing rest

theorem reads_filterChars (a : StartAnchor) (groups : Nat) {rest : List Char}
    (h : rest.head? ≠ some '?') : Reads groups rest (a.filterChars ++ rest) a.lexemes := by
  cases a with
  | anywhere => exact .refl
  | url => exact .step _ rfl rfl .refl
  | host =>
    have hlabel : Reads groups rest ("([a-z0-9-]+\\.)?".toList ++ rest) (lexemes .host |>.drop 6) :=
      .step _ rfl rfl <| .step _ (readToken_label groups _) rfl <| .step _ rfl rfl <|
        .step _ rfl rfl <| .step _ rfl rfl <|
          .step _ (congrArg some (quantifierToken_of_head?_ne 0 (some 1) false h)) rfl .refl
    exact .step _ rfl rfl <| .step _ (readToken_scheme groups _) rfl <| .step _ rfl rfl <|
      .step _ rfl rfl <| .step _ rfl rfl <| .step _ rfl rfl hlabel

end StartAnchor

/-! ## What is written for a whole pattern -/

namespace UrlPattern

/-- The parts of the regular expression of a pattern. -/
def parts (p : UrlPattern) : List Node :=
  p.start.parts ++ p.body.map charPart ++ if p.stop then [.anchor .stop] else []

/-- **Nothing that is written for a pattern runs into another.**  The regular expression of a
pattern has the parts of its anchors and of its characters, in their order. -/
theorem parse?_filterChars (p : UrlPattern) : parse? p.filterChars = some (.ofParts p.parts) := by
  let stop : List Lexeme := if p.stop then [⟨.anchor .stop, ['$']⟩] else []
  let ls := p.start.lexemes ++ (p.body.flatMap charLexemes ++ stop)
  have hstop (groups : Nat) : Reads groups [] (if p.stop then ['$'] else []) stop := by
    cases hp : p.stop <;> simp only [stop, hp]
    · exact .refl
    · exact .step _ rfl rfl .refl
  have hnext : (if p.stop then ['$'] else []).head? ≠ some '?' := by
    cases p.stop <;> simp
  have hlexemes (groups : Nat) : lexemes groups p.filterChars = some ls := by
    rw [filterChars, List.append_assoc]
    have hbody := (reads_flatMap_charFilter p.body groups hnext).trans (hstop groups)
    have hstart := p.start.reads_filterChars groups (head?_flatMap_charFilter_append p.body hnext)
    exact (hstart.trans hbody).lexemes_eq
  have htree : TreeOf ls p.parts := by
    rw [parts, List.append_assoc]
    refine p.start.treeOf_lexemes.append ((treeOf_flatMap_charLexemes p.body).append ?_)
    cases hp : p.stop <;> simp only [stop, hp]
    · exact .nil
    · exact ⟨[⟨.anchor .stop, ['$']⟩], rfl, fun _ _ => rfl⟩
  rw [parse?, hlexemes]
  show (lexemes (captureCount ls) p.filterChars).bind Node.ofLexemes? = _
  rw [hlexemes, Option.bind_some, htree.ofLexemes?_eq]

theorem constructs_parts (p : UrlPattern) : p.parts.flatMap (·.constructs) = [] := by
  rw [parts, List.flatMap_append, List.flatMap_append, p.start.constructs_parts, List.flatMap_map,
    List.nil_append]
  have hbody : p.body.flatMap (fun c => (charPart c).constructs) = [] :=
    List.flatMap_eq_nil_iff.2 fun c _ => charPart_constructs c
  rw [hbody]
  cases p.stop <;> rfl

/-! ## Different patterns -/

theorem charPart_ne_anchor (c : Char) (a : Anchor) : charPart c ≠ .anchor a := by
  rw [charPart]
  split
  · exact Node.noConfusion
  · split <;> exact Node.noConfusion

theorem charPart_ne_repetition (c : Char) (text : List Char) (body : Node) :
    charPart c ≠ .repetition ⟨1, none, false, false⟩ text body := by
  rw [charPart]
  split
  · simp
  · split <;> simp

theorem charPart_injective {c d : Char} (h : charPart c = charPart d) : c = d := by
  rw [charPart, charPart] at h
  by_cases hc : c = '*'
  · by_cases hd : d = '*'
    · rw [hc, hd]
    · rw [if_pos hc, if_neg hd] at h
      split at h <;> cases h
  · by_cases hd : d = '*'
    · rw [if_neg hc, if_pos hd] at h
      split at h <;> cases h
    · rw [if_neg hc, if_neg hd] at h
      split at h
      · rename_i hc
        split at h
        · rename_i hd
          rw [hc, hd]
        · cases h
      · split at h
        · cases h
        · injection h with h
          injection h with h
          exact Char.toNat_inj.1 h

/-- The parts behind the anchor at the start. -/
def partsBehind (body : List Char) (stop : Bool) : List Node :=
  body.map charPart ++ if stop then [.anchor .stop] else []

theorem partsBehind_injective {body body' : List Char} {stop stop' : Bool}
    (h : partsBehind body stop = partsBehind body' stop') : body = body' ∧ stop = stop' := by
  induction body generalizing body' with
  | nil =>
    cases body' with
    | nil => cases stop <;> cases stop' <;> first | exact ⟨rfl, rfl⟩ | cases h
    | cons d body' =>
      cases stop with
      | false => cases h
      | true =>
        injection h with h
        exact absurd h.symm (charPart_ne_anchor d _)
  | cons c body ih =>
    cases body' with
    | nil =>
      cases stop' with
      | false => cases h
      | true =>
        injection h with h
        exact absurd h (charPart_ne_anchor c _)
    | cons d body' =>
      injection h with hhead htail
      obtain ⟨hbody, hstop⟩ := ih htail
      exact ⟨by rw [charPart_injective hhead, hbody], hstop⟩

theorem partsBehind_ne_start_cons (body : List Char) (stop : Bool) (parts : List Node) :
    partsBehind body stop ≠ .anchor .start :: parts := by
  cases body with
  | nil => cases stop <;> exact fun h => nomatch h
  | cons c body => exact fun h => charPart_ne_anchor c _ (List.cons.inj h).1

theorem partsBehind_ne_repetition_cons (body : List Char) (stop : Bool) (text : List Char)
    (part : Node) (parts : List Node) :
    partsBehind body stop ≠ .repetition ⟨1, none, false, false⟩ text part :: parts := by
  cases body with
  | nil => cases stop <;> exact fun h => nomatch h
  | cons c body => exact fun h => charPart_ne_repetition c _ _ (List.cons.inj h).1

theorem parts_injective {p q : UrlPattern} (h : p.parts = q.parts) : p = q := by
  obtain ⟨start, body, stop⟩ := p
  obtain ⟨start', body', stop'⟩ := q
  rw [parts, parts, List.append_assoc, List.append_assoc] at h
  change start.parts ++ partsBehind body stop = start'.parts ++ partsBehind body' stop' at h
  have hstart : start = start' := by
    cases start <;> cases start'
    case anywhere.anywhere | url.url | host.host => rfl
    case anywhere.url | anywhere.host => exact absurd h (partsBehind_ne_start_cons _ _ _)
    case url.anywhere | host.anywhere => exact absurd h.symm (partsBehind_ne_start_cons _ _ _)
    case url.host =>
      exact absurd (List.cons.inj h).2 (partsBehind_ne_repetition_cons _ _ _ _ _)
    case host.url =>
      exact absurd (List.cons.inj h).2.symm (partsBehind_ne_repetition_cons _ _ _ _ _)
  subst hstart
  obtain ⟨rfl, rfl⟩ := partsBehind_injective (List.append_cancel_left h)
  rfl

/-- **No two patterns have the same url-filter.** -/
theorem toFilter_injective {pattern pattern' : String} (h : toFilter pattern = toFilter pattern') :
    pattern = pattern' := by
  have hfilter := congrArg (fun filter => parse? filter.toList) h
  simp only [toFilter, String.toList_ofList, parse?_filterChars] at hfilter
  have hparts := Node.ofParts_injective (Option.some.inj hfilter)
  rw [← String.toList_inj, ← chars_ofChars pattern.toList, ← chars_ofChars pattern'.toList,
    parts_injective hparts]

/-! ## Which patterns have a url-filter -/

theorem isAscii_charFilter (c : Char) : isAscii (charFilter c) = isAscii [c] := by
  rw [charFilter]
  split
  · rename_i h
    rw [h]
    rfl
  · split
    · rename_i h
      rw [h]
      rfl
    · split <;> rfl

theorem isAscii_flatMap_charFilter (body : List Char) :
    isAscii (body.flatMap charFilter) = isAscii body := by
  induction body with
  | nil => rfl
  | cons c body ih =>
    have happend (s t : List Char) : isAscii (s ++ t) = (isAscii s && isAscii t) :=
      List.all_append
    rw [List.flatMap_cons, happend, isAscii_charFilter, ih, ← happend, List.singleton_append]

theorem isAscii_filterChars (p : UrlPattern) : isAscii p.filterChars = isAscii p.chars := by
  have happend (s t : List Char) : isAscii (s ++ t) = (isAscii s && isAscii t) :=
    List.all_append
  rw [filterChars, chars, happend, happend, happend, happend, isAscii_flatMap_charFilter]
  obtain ⟨start, body, stop⟩ := p
  cases start <;> cases stop <;> rfl

/-- **A pattern has a url-filter exactly if it is ASCII**, and nothing else is wrong with the one
that it would have otherwise. -/
theorem check_toFilter (pattern : String) : Regex.check (toFilter pattern) =
    if isAscii pattern.toList then none else some .nonAscii := by
  have hparse := parse?_filterChars (ofChars pattern.toList)
  rw [Regex.check, toFilter, String.toList_ofList, checkChars, isAscii_filterChars, chars_ofChars,
    hparse]
  dsimp only
  rw [firstConstruct?_of_parse? hparse, Node.constructs_ofParts, constructs_parts]
  rfl

end UrlPattern
end ContentBlocker
