import Mathlib.Data.List.TakeWhile
import ContentBlocker.Proofs.Regex.Texts

/-!
# Finding constructs without a tree

What the url-filter language lacks can be found in an expression without reading it: go through the
text from the left, take a backslash and the character behind it as one, pass over sets between
square brackets and over the names of groups, and look at each place for the text of a construct
(`scan`).  Nothing is known there of atoms, of the bounds of a quantifier, of escapes with more
than one character behind the backslash, or of the cases in which an escape is not well formed and
is read as something else.

The scan stays in step with the tokens of the expression: at each token it finds what the token
brings in, and it comes to the place where the next token starts (`scan_of_readToken`).  So for an
expression without back-references, which the scan does not look for, it finds the constructs of
the tree (`perm_scan_constructs`), and the url-filter language can be told by the scan
(`check_eq_none_iff_scan`).
-/

set_option autoImplicit false
namespace ContentBlocker.Regex

open Text (digitValue? digitsValue? isDigit isDigit_ten readDigits)

/-! ## The scan -/

/-- What stands behind the bracket that closes a set. -/
def afterSet : List Char → List Char
  | [] => []
  | ['\\'] => []
  | '\\' :: _ :: rest => afterSet rest
  | ']' :: rest => rest
  | _ :: rest => afterSet rest

/-- What stands behind the name of a group and the `>` that closes it. -/
def afterName (s : List Char) : List Char :=
  (s.dropWhile (· != '>')).drop 1

/-- Whether the text behind a brace is one or two numbers and another brace, so that the braces are
those of a quantifier: `n}`, `n,}` or `n,m}`. -/
def startsBounds (s : List Char) : Bool :=
  !(s.takeWhile Char.isDigit).isEmpty &&
    match s.dropWhile Char.isDigit with
    | '\x7d' :: _ => true
    | ',' :: rest => (rest.dropWhile Char.isDigit).head? == some '\x7d'
    | _ => false

/-- What is found at a parenthesis that opens a group, and where to go on. -/
def scanGroup : List Char → Option Construct × List Char
  | '?' :: '=' :: rest => (some .lookaround, rest)
  | '?' :: '!' :: rest => (some .lookaround, rest)
  | '?' :: '<' :: '=' :: rest => (some .lookaround, rest)
  | '?' :: '<' :: '!' :: rest => (some .lookaround, rest)
  | '?' :: '<' :: rest => (none, afterName rest)
  | rest => (none, rest)

/-- What is found behind a backslash, and where to go on. -/
def scanEscape : List Char → Option Construct × List Char
  | [] => (none, [])
  | c :: rest => (if c = 'b' ∨ c = 'B' then some .wordBoundary else none, rest)

/-- What is found at a character, and where to go on. -/
def scanStep (c : Char) (rest : List Char) : Option Construct × List Char :=
  match c with
  | '\\' => scanEscape rest
  | '[' => (none, afterSet rest)
  | '(' => scanGroup rest
  | '|' => (some .alternation, rest)
  | '\x7b' => (if startsBounds rest then some .boundedRepetition else none, rest)
  | _ => (none, rest)

theorem length_afterSet (s : List Char) : (afterSet s).length ≤ s.length := by
  fun_induction afterSet s with
  | case1 => exact Nat.le_refl _
  | case2 => simp
  | case3 _ rest ih =>
    simp only [List.length_cons]
    omega
  | case4 rest => simp
  | case5 _ rest _ _ _ ih => exact Nat.le_succ_of_le ih

theorem length_afterName (s : List Char) : (afterName s).length ≤ s.length := by
  rw [afterName, List.length_drop]
  have := List.length_dropWhile_le (· != '>') s
  omega

theorem length_scanGroup (s : List Char) : (scanGroup s).2.length ≤ s.length := by
  unfold scanGroup
  split
  iterate 4 (simp only [List.length_cons]; omega)
  · rename_i rest _ _
    have := length_afterName rest
    simp only [List.length_cons]
    omega
  · exact Nat.le_refl _

theorem length_scanStep (c : Char) (s : List Char) : (scanStep c s).2.length ≤ s.length := by
  unfold scanStep
  split
  · cases s <;> simp [scanEscape]
  · exact length_afterSet s
  · exact length_scanGroup s
  · exact Nat.le_refl _
  · exact Nat.le_refl _
  · exact Nat.le_refl _

/-- The constructs that are found in an expression, from the left. -/
def scan : List Char → List Construct
  | [] => []
  | c :: rest => (scanStep c rest).1.toList ++ scan (scanStep c rest).2
termination_by s => s.length
decreasing_by exact Nat.lt_succ_of_le (length_scanStep c rest)

theorem scan_cons (c : Char) (rest : List Char) :
    scan (c :: rest) = (scanStep c rest).1.toList ++ scan (scanStep c rest).2 := by
  rw [scan]

/-! ## Characters that are passed over -/

theorem scan_cons_of_ne {c : Char} (hbackslash : c ≠ '\\') (hset : c ≠ '[') (hgroup : c ≠ '(')
    (hbar : c ≠ '|') (hbrace : c ≠ '\x7b') (rest : List Char) : scan (c :: rest) = scan rest := by
  have hstep : scanStep c rest = (none, rest) := by
    rw [scanStep]
    · exact hbackslash
    · exact hset
    · exact hgroup
    · exact hbar
    · exact hbrace
  rw [scan_cons, hstep]
  rfl

theorem scan_escape {c : Char} (hb : c ≠ 'b') (hB : c ≠ 'B') (rest : List Char) :
    scan ('\\' :: c :: rest) = scan rest := by
  have hstep : scanStep '\\' (c :: rest) = (none, rest) := by
    rw [scanStep, scanEscape, if_neg]
    rintro (rfl | rfl)
    · exact hb rfl
    · exact hB rfl
  rw [scan_cons, hstep]
  rfl

/-- Whether a character means nothing to the scan, neither in a set nor outside of sets. -/
def isQuiet (c : Char) : Bool :=
  !"\\[](|\x7b>".toList.contains c

theorem ne_of_isQuiet {c d : Char} (h : isQuiet c = true) (hd : isQuiet d = false) : c ≠ d := by
  rintro rfl
  rw [h] at hd
  cases hd

theorem scan_cons_of_isQuiet {c : Char} (h : isQuiet c = true) (rest : List Char) :
    scan (c :: rest) = scan rest :=
  scan_cons_of_ne (ne_of_isQuiet h rfl) (ne_of_isQuiet h rfl) (ne_of_isQuiet h rfl)
    (ne_of_isQuiet h rfl) (ne_of_isQuiet h rfl) rest

theorem isQuiet_of_isAlphanum {c : Char} (h : c.isAlphanum = true) : isQuiet c = true := by
  rw [isQuiet, Bool.not_eq_true', Bool.eq_false_iff]
  intro hcontains
  have hmem := List.contains_iff_mem.1 hcontains
  rcases (by simpa using hmem : c = '\\' ∨ c = '[' ∨ c = ']' ∨ c = '(' ∨ c = '|' ∨ c = '\x7b' ∨
    c = '>') with rfl | rfl | rfl | rfl | rfl | rfl | rfl <;> cases h

theorem scan_append_of_isQuiet {used : List Char} (h : ∀ c ∈ used, isQuiet c = true)
    (rest : List Char) : scan (used ++ rest) = scan rest := by
  induction used with
  | nil => rfl
  | cons c used ih =>
    rw [List.cons_append, scan_cons_of_isQuiet (h c List.mem_cons_self),
      ih fun d hd => h d (List.mem_cons_of_mem c hd)]

/-! ## Sets -/

theorem afterSet_cons_of_ne {c : Char} (hbackslash : c ≠ '\\') (hbracket : c ≠ ']')
    (rest : List Char) : afterSet (c :: rest) = afterSet rest := by
  rw [afterSet]
  · rintro rfl
    exact absurd rfl hbackslash
  · rintro _ _ rfl
    exact absurd rfl hbackslash
  · exact hbracket

theorem afterSet_cons_of_isQuiet {c : Char} (h : isQuiet c = true) (rest : List Char) :
    afterSet (c :: rest) = afterSet rest :=
  afterSet_cons_of_ne (ne_of_isQuiet h rfl) (ne_of_isQuiet h rfl) rest

theorem afterSet_append_of_isQuiet {used : List Char} (h : ∀ c ∈ used, isQuiet c = true)
    (rest : List Char) : afterSet (used ++ rest) = afterSet rest := by
  induction used with
  | nil => rfl
  | cons c used ih =>
    rw [List.cons_append, afterSet_cons_of_isQuiet (h c List.mem_cons_self),
      ih fun d hd => h d (List.mem_cons_of_mem c hd)]

theorem afterSet_append_of_nameText {used : List Char} (h : NameText used) (rest : List Char) :
    afterSet (used ++ rest) = afterSet rest := by
  induction h with
  | nil => rfl
  | @char c s hc _ ih =>
    rw [List.cons_append, afterSet_cons_of_ne, ih]
    · rintro rfl
      exact hc (by decide)
    · rintro rfl
      exact hc (by decide)
  | escape _ ih => rwa [List.cons_append, List.cons_append, afterSet]

/-- A set goes on behind an escape, however far that reaches. -/
theorem afterSet_of_escapeText {s left : List Char} {a : Atom} (h : EscapeText left a s) :
    afterSet ('\\' :: s) = afterSet left := by
  cases h with
  | coded _ _ c hused =>
    rw [afterSet, afterSet_append_of_isQuiet fun d hd => isQuiet_of_isAlphanum (hused d hd)]
  | lone _ hleft =>
    subst hleft
    rw [afterSet, afterSet_cons_of_isQuiet rfl]
  | named codes hused =>
    rw [afterSet, afterSet_cons_of_isQuiet rfl, afterSet_append_of_nameText hused,
      afterSet_cons_of_ne (by decide) (by decide)]

theorem afterSet_of_readSetEscape {s left : List Char} {i : SetItem}
    (h : readSetEscape s = some (i, left)) : afterSet ('\\' :: s) = afterSet left := by
  have hescape {s : List Char} (h : ((readEscape 0 s).bind fun (p : Atom × List Char) =>
      p.1.toSetItem?.map (·, p.2)) = some (i, left)) : afterSet ('\\' :: s) = afterSet left := by
    obtain ⟨⟨a, rest⟩, hread, hitem⟩ := Option.bind_eq_some_iff.1 h
    obtain ⟨item, -, heq⟩ := Option.map_eq_some_iff.1 hitem
    cases heq
    exact afterSet_of_escapeText (readEscape_extent hread)
  unfold readSetEscape at h
  split at h
  · cases h
    rw [afterSet]
  · cases h
  · rename_i d rest
    split at h
    · rename_i n hdigit
      cases h
      have hd : isDigit 10 d = true := by rw [isDigit, hdigit]; rfl
      rw [afterSet, afterSet_cons_of_isQuiet (isQuiet_of_isAlphanum (isAlphanum_of_isDigit hd))]
    · split at h
      · rename_i hd
        cases h
        rw [afterSet, hd, afterSet_cons_of_isQuiet rfl]
      · exact hescape h
  · exact hescape h

theorem afterSet_of_readSetAtom {s left : List Char} {i : SetItem}
    (h : readSetAtom s = some (i, left)) (hs : s.head? ≠ some ']') :
    afterSet s = afterSet left := by
  unfold readSetAtom at h
  split at h
  · cases h
  · exact afterSet_of_readSetEscape h
  · rename_i c rest hc
    cases h
    exact afterSet_cons_of_ne (fun heq => hc heq) (fun heq => hs (by rw [heq]; rfl)) _

theorem afterSet_of_readSetPart {s left : List Char} {items : List SetItem}
    (h : readSetPart s = some (items, left)) (hs : s.head? ≠ some ']') :
    afterSet s = afterSet left := by
  unfold readSetPart at h
  split at h
  · cases h
  · rename_i first rest hfirst
    have hstep := afterSet_of_readSetAtom hfirst hs
    split at h
    · rename_i rest'
      split at h
      · cases h
        exact hstep
      · rename_i hbracket
        split at h
        · cases h
        · rename_i last rest'' hlast
          obtain ⟨_, -, heq⟩ := Option.map_eq_some_iff.1 h
          cases heq
          rw [hstep, afterSet_cons_of_isQuiet rfl, afterSet_of_readSetAtom hlast hbracket]
    · cases h
      exact hstep

theorem afterSet_of_readSetItems {s left : List Char} {items : List SetItem}
    (h : readSetItems s = some (items, left)) : afterSet s = left := by
  fun_induction readSetItems s generalizing items left with
  | case1 rest =>
    cases h
    rw [afterSet]
  | case2 => cases h
  | case3 s hs part rest hpart ih =>
    obtain ⟨⟨_, _⟩, hrest, heq⟩ := Option.map_eq_some_iff.1 h
    cases heq
    rw [afterSet_of_readSetPart hpart, ih hrest]
    intro hhead
    obtain ⟨rest, rfl⟩ := List.head?_eq_some_iff.1 hhead
    exact hs rest rfl

/-- **The scan finds the end of a set.** -/
theorem afterSet_of_readSet {s left : List Char} {a : Atom} (h : readSet s = some (a, left)) :
    afterSet s = left := by
  unfold readSet at h
  split at h
  · obtain ⟨⟨_, _⟩, hitems, heq⟩ := Option.map_eq_some_iff.1 h
    cases heq
    rw [afterSet_cons_of_isQuiet rfl, afterSet_of_readSetItems hitems]
  · obtain ⟨⟨_, _⟩, hitems, heq⟩ := Option.map_eq_some_iff.1 h
    cases heq
    exact afterSet_of_readSetItems hitems

theorem atom_of_readSet {s left : List Char} {a : Atom} (h : readSet s = some (a, left)) :
    ∃ negated items, a = .set negated items := by
  unfold readSet at h
  split at h
  · obtain ⟨⟨items, _⟩, -, heq⟩ := Option.map_eq_some_iff.1 h
    cases heq
    exact ⟨true, items, rfl⟩
  · obtain ⟨⟨items, _⟩, -, heq⟩ := Option.map_eq_some_iff.1 h
    cases heq
    exact ⟨false, items, rfl⟩

/-! ## Bounds of quantifiers -/

/-- Digits are a number unless there are none. -/
theorem exists_digitsValue?_takeWhile {s : List Char} (h : s.takeWhile Char.isDigit ≠ []) :
    ∃ n, digitsValue? 10 (s.takeWhile Char.isDigit) = some n := by
  refine exists_digitsValue? h fun c hc => ?_
  rw [isDigit_ten]
  exact List.all_eq_true.1 List.all_takeWhile c hc

/-- **Braces are those of a quantifier where they look like it.** -/
theorem isSome_readBounds (s : List Char) : (readBounds s).isSome = startsBounds s := by
  rw [readBounds, startsBounds, show isDigit 10 = Char.isDigit from funext isDigit_ten]
  by_cases hempty : s.takeWhile Char.isDigit = []
  · rw [hempty]
    rfl
  · obtain ⟨least, hleast⟩ := exists_digitsValue?_takeWhile hempty
    rw [hleast, List.isEmpty_eq_false_iff.2 hempty, Bool.not_false, Bool.true_and]
    split
    · rename_i h
      rw [h]
      rfl
    · rename_i h
      rw [h]
      rfl
    · rename_i s' hbrace _ h
      rw [h]
      change _ = ((s'.dropWhile Char.isDigit).head? == some '\x7d')
      split
      · rename_i h'
        rw [h']
        rfl
      · -- Without a second number the comma would have to stand right before the brace.
        rename_i hmost
        rw [Option.isSome_none, eq_comm, beq_eq_false_iff_ne]
        intro hhead
        obtain ⟨rest, hrest⟩ := List.head?_eq_some_iff.1 hhead
        by_cases hempty' : s'.takeWhile Char.isDigit = []
        · have hsplit := List.takeWhile_append_dropWhile (p := Char.isDigit) (l := s')
          rw [hempty', List.nil_append, hrest] at hsplit
          exact hbrace rest hsplit.symm
        · obtain ⟨most, hvalue⟩ := exists_digitsValue?_takeWhile hempty'
          exact hmost most rest hvalue hrest
    · rename_i hexact _ hcomma
      split
      · rename_i h
        exact (hexact _ _ rfl h).elim
      · rename_i h
        exact (hcomma _ _ rfl h).elim
      · rfl

/-! ## In step with the tokens -/

theorem scan_quantifierToken (least : Nat) (most : Option Nat) (braced : Bool) (s : List Char) :
    scan s = scan (quantifierToken least most braced s).2 := by
  unfold quantifierToken
  split
  · rw [scan_cons_of_isQuiet rfl]
  · rfl

theorem constructs_quantifierToken (least : Nat) (most : Option Nat) (braced : Bool)
    (s : List Char) : (quantifierToken least most braced s).1.constructs =
      if braced then [.boundedRepetition] else [] := by
  unfold quantifierToken
  split <;> rfl

theorem isQuiet_of_boundsText {s : List Char} (h : BoundsText s) : ∀ c ∈ s, isQuiet c = true := by
  have hdigits {s : List Char} (hs : ∀ c ∈ s, c.isDigit = true) : ∀ c ∈ s, isQuiet c = true :=
    fun c hc => isQuiet_of_isAlphanum (by rw [Char.isAlphanum, hs c hc, Bool.or_true])
  cases h with
  | digits hs => exact hdigits hs
  | comma hleast hmost =>
    exact List.forall_mem_append.2 ⟨hdigits hleast, List.forall_mem_cons.2 ⟨rfl, hdigits hmost⟩⟩

theorem scan_of_readBrace {s left : List Char} {t : Token} (h : readBrace s = some (t, left)) :
    scan ('\x7b' :: s) = t.constructs ++ scan left := by
  rw [scan_cons, scanStep]
  dsimp only
  rw [← isSome_readBounds]
  unfold readBrace at h
  split at h
  · rename_i hbounds
    cases h
    rw [hbounds]
    rfl
  · rename_i least most rest hbounds
    obtain ⟨-, htoken⟩ := Option.ite_none_right_eq_some.1 h
    obtain ⟨used, rfl, hused⟩ := readBounds_extent hbounds
    have hquiet := isQuiet_of_boundsText hused
    have htokens := Option.some.inj htoken
    have hconstructs := constructs_quantifierToken least most true rest
    have hscan := scan_quantifierToken least most true rest
    rw [htokens] at hconstructs hscan
    rw [hbounds, hconstructs, scan_append_of_isQuiet hquiet, scan_cons_of_isQuiet rfl, hscan]
    rfl

theorem afterName_of_readName {s left : List Char} {name : List Nat}
    (h : readName s = some (name, left)) : afterName s = left := by
  obtain ⟨used, rfl, hused⟩ := readName_extent h
  rw [afterName, List.dropWhile_append_of_pos, List.dropWhile_cons_of_neg (by simp),
    List.drop_succ_cons, List.drop_zero]
  intro c hc
  have hne : c ≠ '>' := fun heq => hused.not_mem (heq ▸ hc)
  simpa using hne

theorem scan_of_readGroupKind {s left : List Char} {kind : GroupKind}
    (h : readGroupKind s = some (kind, left)) :
    scan ('(' :: s) = kind.constructs ++ scan left := by
  have hstep : scan ('(' :: s) = (scanGroup s).1.toList ++ scan (scanGroup s).2 := by
    rw [scan_cons, scanStep]
  rw [hstep]
  unfold readGroupKind at h
  split at h
  · cases h
    show scan ('?' :: ':' :: left) = scan left
    rw [scan_cons_of_isQuiet rfl, scan_cons_of_isQuiet rfl]
  iterate 4 (cases h; rfl)
  · rename_i rest hahead hbehind
    obtain ⟨⟨name, rest'⟩, hname, heq⟩ := Option.map_eq_some_iff.1 h
    cases heq
    rw [scanGroup, afterName_of_readName hname]
    · rfl
    · exact hahead
    · exact hbehind
  · rename_i hahead hahead' hbehind hbehind' hname
    cases h
    rw [scanGroup]
    · rfl
    · exact hahead
    · exact hahead'
    · exact hbehind
    · exact hbehind'
    · exact hname

theorem scan_of_readEscapeToken {groups : Nat} {s left : List Char} {t : Token}
    (h : readEscapeToken groups s = some (t, left)) (href : .backReference ∉ t.constructs) :
    scan ('\\' :: s) = t.constructs ++ scan left := by
  unfold readEscapeToken at h
  split at h
  · cases h
    rw [scan_cons]
    rfl
  · cases h
    rw [scan_cons]
    rfl
  · rename_i hb hB
    obtain ⟨⟨a, rest⟩, hread, heq⟩ := Option.map_eq_some_iff.1 h
    cases heq
    have hnone : (Token.atom a).constructs = [] := by
      cases a with
      | reference r => exact absurd List.mem_cons_self href
      | _ => rfl
    rw [hnone, List.nil_append]
    cases readEscape_extent hread with
    | coded _ _ c hused =>
      rw [scan_escape (fun heq => hb _ (by rw [heq])) (fun heq => hB _ (by rw [heq])),
        scan_append_of_isQuiet fun d hd => isQuiet_of_isAlphanum (hused d hd)]
    | lone _ hleft =>
      subst hleft
      rw [scan_escape (by decide) (by decide), scan_cons_of_isQuiet rfl]
    | named codes hused => exact absurd List.mem_cons_self href

/-- **One token of the expression is one step of the scan, or more.** -/
theorem scan_of_readToken {groups : Nat} {c : Char} {s left : List Char} {t : Token}
    (h : readToken groups c s = some (t, left)) (href : .backReference ∉ t.constructs) :
    scan (c :: s) = t.constructs ++ scan left := by
  have hquantifier {c : Char} {least : Nat} {most : Option Nat}
      (hc : isQuiet c = true) (h : some (quantifierToken least most false s) = some (t, left)) :
      scan (c :: s) = t.constructs ++ scan left := by
    have hconstructs := constructs_quantifierToken least most false s
    have hscan := scan_quantifierToken least most false s
    rw [Option.some.inj h] at hconstructs hscan
    rw [scan_cons_of_isQuiet hc, hconstructs, hscan]
    rfl
  unfold readToken at h
  split at h
  · cases h
    rw [scan_cons]
    rfl
  · obtain ⟨⟨kind, rest⟩, hread, heq⟩ := Option.map_eq_some_iff.1 h
    cases heq
    exact scan_of_readGroupKind hread
  iterate 4 (cases h; exact scan_cons_of_isQuiet rfl s)
  · exact hquantifier rfl h
  · exact hquantifier rfl h
  · exact hquantifier rfl h
  · exact scan_of_readBrace h
  · obtain ⟨⟨a, rest⟩, hread, heq⟩ := Option.map_eq_some_iff.1 h
    cases heq
    obtain ⟨negated, items, rfl⟩ := atom_of_readSet hread
    rw [scan_cons, scanStep, afterSet_of_readSet hread]
    rfl
  · exact scan_of_readEscapeToken h href
  · rename_i hbar hgroup _ _ _ _ _ _ _ hbrace hset hbackslash
    cases h
    exact scan_cons_of_ne hbackslash hset hgroup hbar hbrace s

/-- **The scan is in step with the tokens** from the start of an expression to its end. -/
theorem scan_eq_of_lexemes {groups : Nat} {s : List Char} {ls : List Lexeme}
    (h : lexemes groups s = some ls) (href : .backReference ∉ ls.flatMap Lexeme.constructs) :
    scan s = ls.flatMap Lexeme.constructs := by
  fun_induction lexemes groups s generalizing ls with
  | case1 =>
    cases h
    rw [scan]
    rfl
  | case2 => cases h
  | case3 c s t left hread ih =>
    obtain ⟨ls, hls, rfl⟩ := Option.map_eq_some_iff.1 h
    rw [List.flatMap_cons, List.mem_append, not_or] at href
    rw [List.flatMap_cons, scan_of_readToken hread href.1, ih hls href.2]
    rfl

/-- **Without back-references the scan finds the constructs of the tree.** -/
theorem perm_scan_constructs {source : List Char} {node : Node} (h : parse? source = some node)
    (href : .backReference ∉ node.constructs) : (scan source).Perm node.constructs := by
  unfold parse? at h
  split at h
  · cases h
  · obtain ⟨ls, hlexemes, htree⟩ := Option.bind_eq_some_iff.1 h
    have hperm := perm_constructs_ofLexemes? htree
    rw [scan_eq_of_lexemes hlexemes fun hmem => href (hperm.mem_iff.2 hmem)]
    exact hperm.symm

/-! ## The url-filter language -/

/-- **The url-filter language can be told without reading an expression.**  An expression is in the
language exactly if it is ASCII, it is well formed and has no back-references, and the scan meets
none of the other constructs. -/
theorem check_eq_none_iff_scan (source : String) :
    check source = none ↔ isAscii source.toList = true ∧
      (∃ node, parse? source.toList = some node ∧ .backReference ∉ node.constructs) ∧
      scan source.toList = [] := by
  rw [check, checkChars_eq_none_iff]
  refine and_congr_right fun _ => ?_
  constructor
  · rintro ⟨node, hparse, hnone⟩
    have href : .backReference ∉ node.constructs := by
      rw [hnone]
      exact List.not_mem_nil
    have hperm := perm_scan_constructs hparse href
    rw [hnone] at hperm
    exact ⟨⟨node, hparse, href⟩, hperm.eq_nil⟩
  · rintro ⟨⟨node, hparse, href⟩, hscan⟩
    have hperm := perm_scan_constructs hparse href
    rw [hscan] at hperm
    exact ⟨node, hparse, hperm.symm.eq_nil⟩

/-- Escaped characters and those in a set are not taken for constructs. -/
example : check "\\|\\(\\?=[|\x7b2\x7d(?=\\]\\b]" = none := by decide +kernel

end ContentBlocker.Regex
