import ContentBlocker.Proofs.Regex.Constructs
import ContentBlocker.Proofs.Regex.Extent
import ContentBlocker.Regex.Dialect

/-!
# The texts of a regular expression

The checker tells a repetition with bounds by the end of its text, and not by the quantifier that
was read.  That the two agree is a fact about every expression that can be read, and is shown in
three steps:

* `readToken_extent` — each token takes its text from the front of what is left, and a quantifier is
  written as one;
* `Node.fits_of_ofLexemesFrom?` — the text of a repetition is what stands for it in the expression,
  and nothing that is repeated ends in braces: a group ends in a parenthesis, a set in a bracket,
  and the only other parts that end in a closing brace are that brace alone and that brace behind a
  backslash;
* `firstConstruct?_of_parse?` — so the search in the tree of an expression stops at the first of its
  constructs.

With that the url-filter language is the expressions described in `Regex.Dialect`
(`checkChars_eq_none_iff`).
-/

set_option autoImplicit false
namespace ContentBlocker.Regex

/-! ## The texts of tokens -/

theorem textBefore_append (used left : List Char) : textBefore left (used ++ left) = used := by
  rw [textBefore, List.length_append, Nat.add_sub_cancel, List.take_left]

namespace Lexeme

/-- What the text of a token has to be like for the end of a repetition to tell its quantifier. -/
def Fits : Lexeme → Prop
  | ⟨.atom _, text⟩ => EndsUnbraced text
  | ⟨.bar, text⟩ => text = ['|']
  | ⟨.closing, text⟩ => text = [')']
  | ⟨.quantifier q, text⟩ => QuantifierText q.braced text
  | ⟨.anchor _, _⟩ | ⟨.opening _, _⟩ => True

end Lexeme

/-- Where a token is read, its text and what is left behind it are what there was. -/
def ReadsText (s left : List Char) (t : Token) : Prop :=
  ∃ used, s = used ++ left ∧ Lexeme.Fits ⟨t, used⟩

namespace ReadsText

theorem quantifier {c : Char} (hc : c ∈ ['*', '+', '?']) {least : Nat} {most : Option Nat}
    {s left : List Char} {t : Token} (h : quantifierToken least most false s = (t, left)) :
    ReadsText (c :: s) left t := by
  obtain ⟨mark, reluctant, htoken, hs, hmark⟩ := quantifierToken_extent least most false s
  rw [h] at htoken hs
  obtain ⟨rfl, -⟩ := Prod.mk.inj htoken
  exact ⟨c :: mark, by rw [hs, List.cons_append], .sign hc hmark⟩

theorem brace {s left : List Char} {t : Token} (h : readBrace s = some (t, left)) :
    ReadsText ('\x7b' :: s) left t := by
  unfold readBrace at h
  split at h
  · cases h
    exact ⟨['\x7b'], rfl, .of_getLast?_eq rfl (by decide)⟩
  · rename_i least most rest hbounds
    obtain ⟨-, hquantifier⟩ := Option.ite_none_right_eq_some.1 h
    obtain ⟨bounds, rfl, hdigits⟩ := readBounds_extent hbounds
    obtain ⟨mark, reluctant, htoken, hrest, hmark⟩ := quantifierToken_extent least most true rest
    rw [Option.some.inj hquantifier] at htoken hrest
    obtain ⟨rfl, -⟩ := Prod.mk.inj htoken
    refine ⟨'\x7b' :: (bounds ++ '\x7d' :: mark), ?_, .braces hdigits hmark⟩
    rw [hrest]
    simp

theorem group {s left : List Char} {kind : GroupKind} (h : readGroupKind s = some (kind, left)) :
    ReadsText ('(' :: s) left (.opening kind) := by
  obtain ⟨used, rfl⟩ := readGroupKind_suffix h
  exact ⟨'(' :: used, rfl, trivial⟩

theorem set {s left : List Char} {a : Atom} (h : readSet s = some (a, left)) :
    ReadsText ('[' :: s) left (.atom a) := by
  obtain ⟨used, rfl⟩ := readSet_extent h
  refine ⟨'[' :: used ++ [']'], by simp, .of_getLast?_eq ?_ (show ']' ≠ '\x7d' by decide)⟩
  rw [List.getLast?_append]
  rfl

theorem escape {groups : Nat} {s left : List Char} {t : Token}
    (h : readEscapeToken groups s = some (t, left)) : ReadsText ('\\' :: s) left t := by
  unfold readEscapeToken at h
  split at h
  · cases h
    exact ⟨['\\', 'b'], rfl, trivial⟩
  · cases h
    exact ⟨['\\', 'B'], rfl, trivial⟩
  · obtain ⟨⟨a, rest⟩, hread, heq⟩ := Option.map_eq_some_iff.1 h
    cases heq
    cases readEscape_extent hread with
    | coded used _ c hused =>
      refine ⟨'\\' :: c :: used, rfl, fun hlast hmem => ?_⟩
      obtain rfl | ⟨used, d, rfl⟩ := used.eq_nil_or_concat
      · -- one character behind the backslash cannot be both braces
        obtain rfl : c = '\x7d' := by simpa using hlast
        simp at hmem
      · obtain rfl : d = '\x7d' := by simpa [List.getLast?_cons] using hlast
        exact absurd (hused '\x7d' (by simp)) (by decide)
    | lone => exact ⟨['\\'], rfl, .of_getLast?_eq rfl (by decide)⟩
    | @named _ used _ =>
      refine ⟨'\\' :: 'k' :: '<' :: used ++ ['>'], by simp,
        .of_getLast?_eq ?_ (show '>' ≠ '\x7d' by decide)⟩
      rw [List.getLast?_append]
      rfl

end ReadsText

/-- **A token takes its text from the front**, whichever token it is. -/
theorem readToken_extent {groups : Nat} {c : Char} {s left : List Char} {t : Token}
    (h : readToken groups c s = some (t, left)) : ReadsText (c :: s) left t := by
  have hother {c : Char} : EndsUnbraced [c] := fun hlast hmem => by
    obtain rfl : c = '\x7d' := Option.some.inj hlast
    exact absurd hmem (by decide)
  unfold readToken at h
  split at h
  · cases h; exact ⟨['|'], rfl, rfl⟩
  · obtain ⟨⟨kind, rest⟩, hread, heq⟩ := Option.map_eq_some_iff.1 h
    cases heq
    exact .group hread
  · cases h; exact ⟨[')'], rfl, rfl⟩
  · cases h; exact ⟨['^'], rfl, trivial⟩
  · cases h; exact ⟨['$'], rfl, trivial⟩
  · cases h; exact ⟨['.'], rfl, hother⟩
  · exact .quantifier (by decide) (Option.some.inj h)
  · exact .quantifier (by decide) (Option.some.inj h)
  · exact .quantifier (by decide) (Option.some.inj h)
  · exact .brace h
  · obtain ⟨⟨a, rest⟩, hread, heq⟩ := Option.map_eq_some_iff.1 h
    cases heq
    exact .set hread
  · exact .escape h
  · cases h; exact ⟨[c], rfl, hother⟩

theorem fits_of_lexemes {groups : Nat} {s : List Char} {ls : List Lexeme}
    (h : lexemes groups s = some ls) : ∀ l ∈ ls, l.Fits := by
  fun_induction lexemes groups s generalizing ls with
  | case1 =>
    cases h
    exact fun l hl => nomatch hl
  | case2 => cases h
  | case3 c s t left hread ih =>
    obtain ⟨ls, hls, rfl⟩ := Option.map_eq_some_iff.1 h
    obtain ⟨used, hused, hfits⟩ := readToken_extent hread
    rw [hused, textBefore_append]
    exact List.forall_mem_cons.2 ⟨hfits, ih hls⟩

/-- **The texts of the tokens make up the expression.** -/
theorem flatMap_text_lexemes {groups : Nat} {s : List Char} {ls : List Lexeme}
    (h : lexemes groups s = some ls) : ls.flatMap Lexeme.text = s := by
  fun_induction lexemes groups s generalizing ls with
  | case1 => cases h; rfl
  | case2 => cases h
  | case3 c s t left hread ih =>
    obtain ⟨ls, hls, rfl⟩ := Option.map_eq_some_iff.1 h
    obtain ⟨used, hused, -⟩ := readToken_extent hread
    rw [List.flatMap_cons, ih hls, hused, textBefore_append]

/-! ## The texts of groups -/

namespace OpenGroup

/-- The characters that a group has been written with so far. -/
def text (g : OpenGroup) : List Char :=
  g.opening ++ g.body.text

private theorem text_foldl_seq (parts : List Part) (rest : Part) :
    (parts.foldl (fun rest part => part.seq rest) rest).text =
      parts.reverse.flatMap Part.text ++ rest.text := by
  induction parts generalizing rest with
  | nil => rfl
  | cons part parts ih =>
    rw [List.foldl_cons, ih, List.reverse_cons, List.flatMap_append, List.flatMap_singleton,
      List.append_assoc]
    rfl

theorem text_current (g : OpenGroup) : g.current.text = g.parts.reverse.flatMap Part.text := by
  rw [current, text_foldl_seq, Part.empty, List.append_nil]

private theorem text_foldl_alt (alternatives : List Part) (last : Part) :
    (alternatives.foldl (fun rest a => a.alt rest) last).text =
      (alternatives.reverse.flatMap fun a => a.text ++ ['|']) ++ last.text := by
  induction alternatives generalizing last with
  | nil => rfl
  | cons a alternatives ih =>
    have halt : (a.alt last).text = (a.text ++ ['|']) ++ last.text :=
      List.append_cons a.text '|' last.text
    rw [List.foldl_cons, ih, halt, List.reverse_cons, List.flatMap_append, List.flatMap_singleton,
      ← List.append_assoc]

theorem text_eq (g : OpenGroup) : g.text = g.opening ++
    ((g.alternatives.reverse.flatMap fun a => a.text ++ ['|']) ++
      g.parts.reverse.flatMap Part.text) := by
  rw [text, body, text_foldl_alt, text_current]

theorem text_ofKind (kind : GroupKind) (opening : List Char) :
    (ofKind kind opening).text = opening :=
  List.append_nil opening

theorem text_push (g : OpenGroup) (part : Part) : (g.push part).text = g.text ++ part.text := by
  simp [text_eq, push]

theorem text_nextAlternative (g : OpenGroup) : g.nextAlternative.text = g.text ++ ['|'] := by
  simp [text_eq, nextAlternative, text_current]

theorem text_close (g : OpenGroup) (closing : List Char) :
    (g.close closing).text = g.text ++ closing :=
  (List.append_assoc _ _ _).symm

theorem text_quantify? {g g' : OpenGroup} {q : Quantifier} {text : List Char}
    (h : g.quantify? q text = some g') : g'.text = g.text ++ text := by
  obtain ⟨part, parts, hparts, -, rfl⟩ := eq_of_quantify? h
  simp [text_eq, hparts, Part.repeated]

end OpenGroup

/-- The characters that a group and those around it have been written with so far. -/
def pendingText : List OpenGroup → OpenGroup → List Char
  | [], g => g.text
  | outer :: stack, g => pendingText stack outer ++ g.text

theorem pendingText_of_text {g g' : OpenGroup} {text : List Char} (h : g'.text = g.text ++ text)
    (stack : List OpenGroup) : pendingText stack g' = pendingText stack g ++ text := by
  cases stack with
  | nil => exact h
  | cons outer stack => rw [pendingText, pendingText, h, List.append_assoc]

theorem suffix_pendingText (stack : List OpenGroup) (g : OpenGroup) :
    g.text <:+ pendingText stack g := by
  cases stack with
  | nil => exact List.suffix_rfl
  | cons outer stack => exact List.suffix_append _ _

/-! ## The texts of repetitions -/

section

variable {source : List Char}

/-- Whether the text of each repetition of a tree is somewhere in the expression, and ends in braces
exactly if the quantifier has some. -/
def Node.Fits (source : List Char) : Node → Prop
  | .empty | .atom _ | .anchor _ => True
  | .group _ body => body.Fits source
  | .repetition q text body =>
    text <:+: source ∧ endsInBounds text = q.braced ∧ body.Fits source
  | .seq first rest | .alt first rest => first.Fits source ∧ rest.Fits source

/-- A part that may become one of a tree with such repetitions, even if it is itself repeated. -/
structure Part.Fits (source : List Char) (part : Part) : Prop where
  node : part.node.Fits source
  text : part.node.isRepeatable = true → EndsUnbraced part.text

/-- A group that may become such a part. -/
structure OpenGroup.Fits (source : List Char) (g : OpenGroup) : Prop where
  alternatives : ∀ a ∈ g.alternatives, a.node.Fits source
  parts : ∀ part ∈ g.parts, part.Fits source

namespace OpenGroup.Fits

variable {g : OpenGroup}

theorem ofKind (kind : GroupKind) (opening : List Char) :
    (OpenGroup.ofKind kind opening).Fits source :=
  ⟨nofun, nofun⟩

theorem push (hg : g.Fits source) {part : Part} (hpart : part.Fits source) :
    (g.push part).Fits source :=
  ⟨hg.alternatives, List.forall_mem_cons.2 ⟨hpart, hg.parts⟩⟩

theorem current (hg : g.Fits source) : g.current.node.Fits source :=
  List.foldlRecOn (motive := fun rest : Part => rest.node.Fits source) g.parts _ trivial
    fun _ hrest part hpart => ⟨(hg.parts part hpart).node, hrest⟩

theorem nextAlternative (hg : g.Fits source) : g.nextAlternative.Fits source :=
  ⟨List.forall_mem_cons.2 ⟨hg.current, hg.alternatives⟩, nofun⟩

theorem body (hg : g.Fits source) : g.body.node.Fits source :=
  List.foldlRecOn (motive := fun rest : Part => rest.node.Fits source) g.alternatives _ hg.current
    fun _ hrest a ha => ⟨hg.alternatives a ha, hrest⟩

/-- A group ends in its parenthesis. -/
theorem close (hg : g.Fits source) : (g.close [')']).Fits source := by
  refine ⟨hg.body, fun _ => .of_getLast?_eq ?_ (show ')' ≠ '\x7d' by decide)⟩
  rw [text_close, List.getLast?_append]
  rfl

/-- The text of a repetition is the last of what has been read. -/
theorem quantify? (hg : g.Fits source) {g' : OpenGroup} {q : Quantifier} {text : List Char}
    (htext : QuantifierText q.braced text) (h : g.quantify? q text = some g')
    (hsource : g'.text <:+: source) : g'.Fits source := by
  obtain ⟨part, parts, hparts, hrepeatable, rfl⟩ := eq_of_quantify? h
  have hfits := hg.parts
  rw [hparts, List.forall_mem_cons] at hfits
  obtain ⟨hpart, hrest⟩ := hfits
  refine ⟨hg.alternatives, List.forall_mem_cons.2 ⟨⟨⟨?_, ?_, hpart.node⟩, nofun⟩, hrest⟩⟩
  · refine List.IsInfix.trans (List.IsSuffix.isInfix ?_) hsource
    rw [text_eq, List.reverse_cons, List.flatMap_append, List.flatMap_singleton]
    exact (List.suffix_append _ _).trans
      ((List.suffix_append _ _).trans (List.suffix_append _ _))
  · exact htext.endsInBounds_append (hpart.text hrepeatable)

end OpenGroup.Fits

/-- The pass over the tokens keeps the groups fit, and so is the tree in the end.  What has been
written and what is to come are the expression all the time. -/
theorem Node.fits_of_ofLexemesFrom? {stack : List OpenGroup} {g : OpenGroup} {ls : List Lexeme}
    {node : Node} (h : Node.ofLexemesFrom? stack g ls = some node)
    (hstack : ∀ outer ∈ stack, outer.Fits source) (hg : g.Fits source) (hls : ∀ l ∈ ls, l.Fits)
    (hsource : pendingText stack g ++ ls.flatMap Lexeme.text = source) : node.Fits source := by
  fun_induction Node.ofLexemesFrom? stack g ls with
  | case1 =>
    cases h
    exact hg.body
  | case2 => cases h
  | case3 stack g a text ls ih =>
    obtain ⟨htext, hrest⟩ := List.forall_mem_cons.1 hls
    refine ih h hstack (hg.push ⟨trivial, fun _ => htext⟩) hrest ?_
    rwa [pendingText_of_text (g.text_push _), List.append_assoc]
  | case4 stack g a text ls ih =>
    have hanchor : Part.Fits source ⟨.anchor a, text⟩ :=
      ⟨trivial, fun h => absurd h Bool.false_ne_true⟩
    refine ih h hstack (hg.push hanchor) (List.forall_mem_cons.1 hls).2 ?_
    rwa [pendingText_of_text (g.text_push _), List.append_assoc]
  | case5 stack g text ls ih =>
    obtain ⟨hbar, hrest⟩ := List.forall_mem_cons.1 hls
    obtain rfl : text = ['|'] := hbar
    refine ih h hstack hg.nextAlternative hrest ?_
    rwa [pendingText_of_text g.text_nextAlternative, List.append_assoc]
  | case6 stack g kind text ls ih =>
    refine ih h (List.forall_mem_cons.2 ⟨hg, hstack⟩) (.ofKind kind text)
      (List.forall_mem_cons.1 hls).2 ?_
    rwa [pendingText, OpenGroup.text_ofKind, List.append_assoc]
  | case7 => cases h
  | case8 g text ls outer stack ih =>
    obtain ⟨hclosing, hrest⟩ := List.forall_mem_cons.1 hls
    obtain ⟨houter, hstack⟩ := List.forall_mem_cons.1 hstack
    obtain rfl : text = [')'] := hclosing
    refine ih h hstack (houter.push hg.close) hrest ?_
    rwa [pendingText_of_text (outer.text_push _), g.text_close, List.append_assoc,
      List.append_assoc, ← List.append_assoc]
  | case9 => cases h
  | case10 stack g q text ls g' hquantify ih =>
    obtain ⟨htext, hrest⟩ := List.forall_mem_cons.1 hls
    have hpending := pendingText_of_text (OpenGroup.text_quantify? hquantify) stack
    have hsource' : pendingText stack g' ++ ls.flatMap Lexeme.text = source := by
      rwa [hpending, List.append_assoc]
    have hwritten : g'.text <:+: source :=
      (suffix_pendingText stack g').isInfix.trans
        (hsource' ▸ (List.prefix_append _ _).isInfix)
    exact ih h hstack (hg.quantify? htext hquantify hwritten) hrest hsource'

theorem Node.fits_of_parse? {node : Node} (h : parse? source = some node) : node.Fits source := by
  unfold parse? at h
  split at h
  · cases h
  · obtain ⟨ls, hls, htree⟩ := Option.bind_eq_some_iff.1 h
    exact Node.fits_of_ofLexemesFrom? htree (fun _ hmem => nomatch hmem) (.ofKind .plain [])
      (fits_of_lexemes hls) (flatMap_text_lexemes hls)

end

/-! ## The first construct -/

theorem Node.Fits.firstConstruct?_eq_head? {source : List Char} {node : Node}
    (h : node.Fits source) : node.firstConstruct? = node.constructs.head? := by
  induction node with
  | empty => rfl
  | atom a => cases a <;> rfl
  | anchor a => cases a <;> rfl
  | group kind body ih =>
    cases kind <;> simp [firstConstruct?, constructs, GroupKind.isLookaround, ih h]
  | repetition q text body ih =>
    obtain ⟨-, htext, hbody⟩ := h
    by_cases hbraced : q.braced <;> simp [firstConstruct?, constructs, htext, hbraced, ih hbody]
  | seq first rest ihf ihr =>
    simp [firstConstruct?, constructs, ihf h.1, ihr h.2, List.head?_append]
  | alt first rest => rfl

/-- **The search in an expression stops at its first construct**, as the quantifiers tell it. -/
theorem firstConstruct?_of_parse? {source : List Char} {node : Node}
    (h : parse? source = some node) : node.firstConstruct? = node.constructs.head? :=
  (Node.fits_of_parse? h).firstConstruct?_eq_head?

/-- **The url-filter language**: ASCII, well formed, and without any construct that it lacks. -/
theorem checkChars_eq_none_iff {source : List Char} :
    checkChars source = none ↔
      isAscii source = true ∧ ∃ node, parse? source = some node ∧ node.constructs = [] := by
  unfold checkChars
  split
  · rename_i hascii
    split
    · rename_i h; simp [h]
    · rename_i node h
      simp [h, firstConstruct?_of_parse? h, hascii]
  · rename_i hascii
    simp [hascii]

end ContentBlocker.Regex
