import ContentBlocker.Proofs.Regex.Bounds
import ContentBlocker.Regex.Token

/-!
# How far an escape, a name or a set reaches

Each reader of a part of an expression takes some characters from the front of the text.  Here it is
said which characters these can be: an escape takes one character and then letters and digits only
(`readEscape_extent`), a name ends in the first `>` behind it (`readName_extent`), a set ends in a
bracket (`readSet_extent`), and the bounds of a quantifier are digits, a comma and a brace
(`readBounds_extent`).  What the characters stand for does not matter.
-/

set_option autoImplicit false
namespace ContentBlocker.Regex

open Text (digitValue? digitsValue? isDigit isDigit_ten readDigits)

/-! ## Digits -/

theorem isAlphanum_of_isDigit {base : Nat} {c : Char} (h : isDigit base c = true) :
    c.isAlphanum = true := by
  rw [isDigit, digitValue?] at h
  show (decide (c.val ≥ 'A'.val ∧ c.val ≤ 'Z'.val) ||
    (decide (c.val ≥ 'a'.val) && decide (c.val ≤ 'z'.val)) ||
    (decide (c.val ≥ '0'.val) && decide (c.val ≤ '9'.val))) = true
  simp only [Bool.or_eq_true, Bool.and_eq_true, decide_eq_true_eq]
  by_cases hdigit : 0x30 ≤ c.toNat ∧ c.toNat ≤ 0x39
  · exact .inr hdigit
  · by_cases hupper : 0x41 ≤ c.toNat ∧ c.toNat ≤ 0x46
    · exact .inl (.inl ⟨hupper.1, show c.toNat ≤ 0x5a by omega⟩)
    · by_cases hlower : 0x61 ≤ c.toNat ∧ c.toNat ≤ 0x66
      · exact .inl (.inr ⟨hlower.1, show c.toNat ≤ 0x7a by omega⟩)
      · simp [hdigit, hupper, hlower] at h

/-- What has a value as a number is digits. -/
theorem isDigit_of_digitsValue? {base n : Nat} {s : List Char} (h : digitsValue? base s = some n) :
    ∀ c ∈ s, isDigit base c = true := by
  have hfold (s : List Char) (start n : Nat)
      (h : s.foldlM (fun n c => (digitValue? base c).map (base * n + ·)) start = some n) :
      ∀ c ∈ s, isDigit base c = true := by
    induction s generalizing start with
    | nil => exact fun c hc => nomatch hc
    | cons d s ih =>
      rw [List.foldlM_cons] at h
      obtain ⟨next, hnext, hrest⟩ := Option.bind_eq_some_iff.1 h
      obtain ⟨value, hvalue, -⟩ := Option.map_eq_some_iff.1 hnext
      intro c hc
      rcases List.mem_cons.1 hc with rfl | hc
      · rw [isDigit, hvalue]
        rfl
      · exact ih next hrest c hc
  cases s with
  | nil => cases h
  | cons c s => exact hfold (c :: s) 0 n h

/-- One digit or more have a value as a number. -/
theorem exists_digitsValue? {base : Nat} {s : List Char} (hne : s ≠ [])
    (h : ∀ c ∈ s, isDigit base c = true) : ∃ n, digitsValue? base s = some n := by
  have hfold (s : List Char) (start : Nat) (h : ∀ c ∈ s, isDigit base c = true) :
      ∃ n, s.foldlM (fun n c => (digitValue? base c).map (base * n + ·)) start = some n := by
    induction s generalizing start with
    | nil => exact ⟨start, rfl⟩
    | cons d s ih =>
      obtain ⟨value, hvalue⟩ := Option.isSome_iff_exists.1 (h d List.mem_cons_self)
      rw [List.foldlM_cons, hvalue]
      exact ih _ fun c hc => h c (List.mem_cons_of_mem d hc)
  cases s with
  | nil => exact absurd rfl hne
  | cons c s => exact hfold (c :: s) 0 h

theorem readDigits_extent {base count n : Nat} {s rest : List Char}
    (h : readDigits base count s = some (n, rest)) :
    ∃ used, s = used ++ rest ∧ ∀ c ∈ used, c.isAlphanum = true := by
  rw [readDigits] at h
  obtain ⟨-, h⟩ := Option.ite_none_right_eq_some.1 h
  obtain ⟨m, hm, heq⟩ := Option.map_eq_some_iff.1 h
  cases heq
  exact ⟨s.take count, (List.take_append_drop count s).symm,
    fun c hc => isAlphanum_of_isDigit (isDigit_of_digitsValue? hm c hc)⟩

/-! ## Names -/

/-- A part of the name of a group as it is written: an escape begins with a backslash and the letter
`u`, and what is no escape is none of the characters that could end the name or a set around it. -/
inductive NameText : List Char → Prop
  | nil : NameText []
  | char {c : Char} {s : List Char} : c ∉ ['\\', ']', '>'] → NameText s → NameText (c :: s)
  | escape {s : List Char} : NameText s → NameText ('\\' :: 'u' :: s)

namespace NameText

theorem append {s t : List Char} (h : NameText s) (h' : NameText t) : NameText (s ++ t) := by
  induction h with
  | nil => exact h'
  | char hc _ ih => exact .char hc ih
  | escape _ ih => exact .escape ih

theorem of_isAlphanum {s : List Char} (h : ∀ c ∈ s, c.isAlphanum = true) : NameText s := by
  induction s with
  | nil => exact .nil
  | cons c s ih =>
    refine .char (fun hmem => ?_) (ih fun d hd => h d (List.mem_cons_of_mem c hd))
    have hc := h c List.mem_cons_self
    simp only [List.mem_cons, List.not_mem_nil, or_false] at hmem
    rcases hmem with rfl | rfl | rfl <;> cases hc

theorem not_mem {s : List Char} (h : NameText s) : '>' ∉ s := by
  induction h with
  | nil => exact List.not_mem_nil
  | char hc _ ih =>
    refine List.not_mem_cons_of_ne_of_not_mem ?_ ih
    rintro rfl
    exact hc (by decide)
  | escape _ ih =>
    exact List.not_mem_cons_of_ne_of_not_mem (by decide)
      (List.not_mem_cons_of_ne_of_not_mem (by decide) ih)

end NameText

theorem readNameEscape_extent {s rest : List Char} {n : Nat}
    (h : readNameEscape s = some (n, rest)) : ∃ used, s = used ++ rest ∧ NameText used := by
  rw [readNameEscape.eq_def] at h
  split at h
  · rename_i r
    split at h
    · rename_i value left hvalue hleft
      obtain ⟨-, heq⟩ := Option.ite_none_right_eq_some.1 h
      cases heq
      refine ⟨'\x7b' :: (r.takeWhile (isDigit 16) ++ ['\x7d']), ?_, .char (by decide) ?_⟩
      · rw [List.cons_append, List.append_assoc, List.singleton_append, ← hleft,
          List.takeWhile_append_dropWhile]
      · refine (NameText.of_isAlphanum fun c hc => ?_).append (.char (by decide) .nil)
        exact isAlphanum_of_isDigit (isDigit_of_digitsValue? hvalue c hc)
    · cases h
  · split at h
    · cases h
    · rename_i high left hhigh
      obtain ⟨used, rfl, hused⟩ := readDigits_extent hhigh
      have hname := NameText.of_isAlphanum hused
      split at h
      · rename_i r
        split at h
        · rename_i low left' hlow
          obtain ⟨used', rfl, hused'⟩ := readDigits_extent hlow
          split at h
          · obtain ⟨-, rfl⟩ := Prod.mk.inj (Option.some.inj h)
            exact ⟨used ++ '\\' :: 'u' :: used', by simp,
              hname.append (.escape (.of_isAlphanum hused'))⟩
          · cases h
            exact ⟨used, rfl, hname⟩
        · cases h
          exact ⟨used, rfl, hname⟩
      · cases h
        exact ⟨used, rfl, hname⟩

theorem isNamePart_of_isNameStart {code : Nat} (h : isNameStart code = true) :
    isNamePart code = true := by
  rw [isNamePart, h]
  rfl

theorem readNameChar_extent {s rest : List Char} {n : Nat} (h : readNameChar s = some (n, rest))
    (hn : isNamePart n = true) : ∃ used, s = used ++ rest ∧ NameText used := by
  rw [readNameChar.eq_def] at h
  split at h
  · cases h
  · obtain ⟨used, rfl, hused⟩ := readNameEscape_extent h
    exact ⟨'\\' :: 'u' :: used, rfl, .escape hused⟩
  · rename_i c left _
    cases h
    refine ⟨[c], rfl, .char (fun hmem => ?_) .nil⟩
    simp only [List.mem_cons, List.not_mem_nil, or_false] at hmem
    rcases hmem with rfl | rfl | rfl <;> cases hn

theorem readNameFrom_extent {codes name : List Nat} {s rest : List Char}
    (h : readNameFrom codes s = some (name, rest)) :
    ∃ used, s = used ++ '>' :: rest ∧ NameText used := by
  fun_induction readNameFrom codes s with
  | case1 => cases h
  | case2 => cases h; exact ⟨[], rfl, .nil⟩
  | case3 codes s _ code left hchar hcode ih =>
    have hpart : isNamePart code = true := by
      split at hcode
      · exact isNamePart_of_isNameStart hcode
      · exact hcode
    obtain ⟨used, rfl, hused⟩ := readNameChar_extent hchar hpart
    obtain ⟨used', rfl, hused'⟩ := ih h
    exact ⟨used ++ used', (List.append_assoc _ _ _).symm, hused.append hused'⟩
  | case4 => cases h
  | case5 => cases h

theorem readName_extent {name : List Nat} {s rest : List Char}
    (h : readName s = some (name, rest)) : ∃ used, s = used ++ '>' :: rest ∧ NameText used :=
  readNameFrom_extent h

/-! ## Escapes -/

/-- What an escape takes from behind its backslash.  In the first case its letters and digits are
used up; in the second it was no escape, and the backslash stands for itself; in the third it is a
reference to a named group. -/
inductive EscapeText (left : List Char) : Atom → List Char → Prop
  | coded (used : List Char) (a : Atom) (c : Char) :
      (∀ d ∈ used, d.isAlphanum = true) → EscapeText left a (c :: (used ++ left))
  | lone (a : Atom) {s : List Char} : left = 'c' :: s → EscapeText left a left
  | named (codes : List Nat) {used : List Char} :
      NameText used →
        EscapeText left (.reference (.name codes)) ('k' :: '<' :: (used ++ '>' :: left))

/-- An escape of one character. -/
theorem EscapeText.single (left : List Char) (a : Atom) (c : Char) :
    EscapeText left a (c :: left) :=
  .coded [] a c fun _ hd => absurd hd List.not_mem_nil

theorem readOctal_extent {c : Char} (hc : isDigit 8 c = true) (s : List Char) :
    ∃ used, s = used ++ (readOctal (c :: s)).2 ∧ ∀ d ∈ used, d.isAlphanum = true := by
  have hprefix : (s.take 2).takeWhile (isDigit 8) <+: s :=
    (List.takeWhile_prefix _).trans (List.take_prefix 2 s)
  refine ⟨(s.take 2).takeWhile (isDigit 8), ?_, fun d hd =>
    isAlphanum_of_isDigit (List.all_eq_true.1 List.all_takeWhile d hd)⟩
  have hdigits : ((c :: s).take 3).takeWhile (isDigit 8) =
      c :: (s.take 2).takeWhile (isDigit 8) := by
    rw [List.take_succ_cons, List.takeWhile_cons_of_pos hc]
  rw [readOctal, hdigits]
  exact (List.prefix_iff_eq_append.1 hprefix).symm

theorem readDecimalEscape_extent {groups : Nat} {c : Char} {s left : List Char} {a : Atom}
    (h : readDecimalEscape groups c s = (a, left)) : EscapeText left a (c :: s) := by
  rw [readDecimalEscape] at h
  dsimp only at h
  split at h
  · obtain ⟨rfl, rfl⟩ := Prod.mk.inj h
    have hextent : EscapeText (s.dropWhile (isDigit 10))
        (.reference (.number ((digitsValue? 10 (c :: s.takeWhile (isDigit 10))).getD 0)))
        (c :: (s.takeWhile (isDigit 10) ++ s.dropWhile (isDigit 10))) :=
      .coded _ _ c fun d hd => isAlphanum_of_isDigit (List.all_eq_true.1 List.all_takeWhile d hd)
    rwa [List.takeWhile_append_dropWhile] at hextent
  · split at h
    · rename_i hoctal
      obtain ⟨rfl, rfl⟩ := Prod.mk.inj h
      obtain ⟨used, hs, hused⟩ := readOctal_extent hoctal s
      have hextent : EscapeText (readOctal (c :: s)).2 (.char (readOctal (c :: s)).1)
          (c :: (used ++ (readOctal (c :: s)).2)) := .coded used _ c hused
      rwa [← hs] at hextent
    · obtain ⟨rfl, rfl⟩ := Prod.mk.inj h
      exact .single _ _ c

/-- The reading of digits, or else the letter before them. -/
private theorem coded_getD_readDigits {base count : Nat} {c : Char} {s left : List Char} {a : Atom}
    (h : ((readDigits base count s).map fun (p : Nat × List Char) => (Atom.char p.1, p.2)).getD
      (Atom.char c.toNat, s) = (a, left)) : EscapeText left a (c :: s) := by
  cases hdigits : readDigits base count s with
  | none =>
    rw [hdigits] at h
    cases h
    exact .single _ _ c
  | some p =>
    obtain ⟨n, rest⟩ := p
    rw [hdigits] at h
    cases h
    obtain ⟨used, rfl, hused⟩ := readDigits_extent hdigits
    exact .coded used _ c hused

theorem readEscape_extent {groups : Nat} {s left : List Char} {a : Atom}
    (h : readEscape groups s = some (a, left)) : EscapeText left a s := by
  cases s with
  | nil => cases h
  | cons c s =>
    unfold readEscape at h
    dsimp only at h
    split at h
    · exact readDecimalEscape_extent (Option.some.inj h)
    split at h
    · cases h
      exact .single _ _ c
    split at h
    · cases h
      exact .single _ _ c
    split at h
    · rename_i hc
      obtain rfl := hc
      split at h
      · rename_i d _
        split at h
        · rename_i hd
          cases h
          exact .coded [d] _ 'c' fun e he => by
            rw [List.mem_singleton.1 he, Char.isAlphanum, hd]
            rfl
        · cases h
          exact .lone _ rfl
      · cases h
        exact .lone _ rfl
    split at h
    · exact coded_getD_readDigits (Option.some.inj h)
    split at h
    · exact coded_getD_readDigits (Option.some.inj h)
    split at h
    · rename_i hk
      obtain rfl := hk
      split at h
      · obtain ⟨⟨codes, rest⟩, hname, heq⟩ := Option.map_eq_some_iff.1 h
        cases heq
        obtain ⟨used, rfl, hused⟩ := readName_extent hname
        exact .named codes hused
      · cases h
    · cases h
      exact .single _ _ c

theorem EscapeText.suffix {left s : List Char} {a : Atom} (h : EscapeText left a s) :
    left <:+ s := by
  cases h with
  | coded used _ c _ => exact ⟨c :: used, rfl⟩
  | lone => exact List.suffix_rfl
  | @named _ used _ => exact ⟨'k' :: '<' :: (used ++ ['>']), by simp⟩

/-! ## Sets -/

theorem readSetEscape_suffix {s left : List Char} {i : SetItem}
    (h : readSetEscape s = some (i, left)) : left <:+ s := by
  have hescape {s : List Char} (h : ((readEscape 0 s).bind fun (p : Atom × List Char) =>
      p.1.toSetItem?.map (·, p.2)) = some (i, left)) : left <:+ s := by
    obtain ⟨⟨a, rest⟩, hread, hitem⟩ := Option.bind_eq_some_iff.1 h
    obtain ⟨item, -, heq⟩ := Option.map_eq_some_iff.1 hitem
    cases heq
    exact (readEscape_extent hread).suffix
  unfold readSetEscape at h
  split at h
  · cases h
    exact List.suffix_cons _ _
  · cases h
  · rename_i d rest
    have hrest : rest <:+ 'c' :: d :: rest := ⟨['c', d], rfl⟩
    split at h
    · cases h
      exact hrest
    · split at h
      · cases h
        exact hrest
      · exact hescape h
  · exact hescape h

theorem readSetAtom_suffix {s left : List Char} {i : SetItem}
    (h : readSetAtom s = some (i, left)) : left <:+ s := by
  unfold readSetAtom at h
  split at h
  · cases h
  · exact (readSetEscape_suffix h).trans (List.suffix_cons _ _)
  · cases h
    exact List.suffix_cons _ _

theorem readSetPart_suffix {s left : List Char} {items : List SetItem}
    (h : readSetPart s = some (items, left)) : left <:+ s := by
  unfold readSetPart at h
  split at h
  · cases h
  · rename_i first rest hfirst
    have hle := readSetAtom_suffix hfirst
    split at h
    · rename_i rest'
      split at h
      · cases h
        exact hle
      · split at h
        · cases h
        · rename_i last rest'' hlast
          obtain ⟨_, -, heq⟩ := Option.map_eq_some_iff.1 h
          cases heq
          exact ((readSetAtom_suffix hlast).trans (List.suffix_cons _ _)).trans hle
    · cases h
      exact hle

/-- A set ends in its closing bracket. -/
theorem readSetItems_extent {s left : List Char} {items : List SetItem}
    (h : readSetItems s = some (items, left)) : ∃ used, s = used ++ ']' :: left := by
  fun_induction readSetItems s generalizing items left with
  | case1 rest =>
    cases h
    exact ⟨[], rfl⟩
  | case2 => cases h
  | case3 s _ part rest hpart ih =>
    obtain ⟨⟨_, _⟩, hrest, heq⟩ := Option.map_eq_some_iff.1 h
    cases heq
    obtain ⟨used, rfl⟩ := ih hrest
    obtain ⟨first, rfl⟩ := readSetPart_suffix hpart
    exact ⟨first ++ used, (List.append_assoc _ _ _).symm⟩

theorem readSet_extent {s left : List Char} {a : Atom} (h : readSet s = some (a, left)) :
    ∃ used, s = used ++ ']' :: left := by
  unfold readSet at h
  split at h
  · obtain ⟨⟨_, _⟩, hitems, heq⟩ := Option.map_eq_some_iff.1 h
    cases heq
    obtain ⟨used, rfl⟩ := readSetItems_extent hitems
    exact ⟨'^' :: used, rfl⟩
  · obtain ⟨⟨_, _⟩, hitems, heq⟩ := Option.map_eq_some_iff.1 h
    cases heq
    exact readSetItems_extent hitems

/-! ## Groups -/

theorem readGroupKind_suffix {s left : List Char} {kind : GroupKind}
    (h : readGroupKind s = some (kind, left)) : left <:+ s := by
  unfold readGroupKind at h
  split at h
  iterate 3 (cases h; exact ⟨['?', _], rfl⟩)
  iterate 2 (cases h; exact ⟨['?', '<', _], rfl⟩)
  · obtain ⟨⟨_, _⟩, hname, heq⟩ := Option.map_eq_some_iff.1 h
    cases heq
    obtain ⟨used, rfl, -⟩ := readName_extent hname
    exact ⟨'?' :: '<' :: (used ++ ['>']), by simp⟩
  · cases h
    exact List.suffix_rfl

/-! ## Quantifiers -/

theorem readBounds_extent {s rest : List Char} {bounds : Nat × Option Nat}
    (h : readBounds s = some (bounds, rest)) :
    ∃ used, s = used ++ '\x7d' :: rest ∧ BoundsText used := by
  have hdigits (s : List Char) : ∀ c ∈ s.takeWhile (isDigit 10), c.isDigit = true := fun c hc =>
    isDigit_ten c ▸ List.all_eq_true.1 List.all_takeWhile c hc
  have hsplit (s : List Char) := (List.takeWhile_append_dropWhile (p := isDigit 10) (l := s)).symm
  rw [readBounds] at h
  split at h
  · rename_i hs
    cases h
    exact ⟨s.takeWhile (isDigit 10), by rw [← hs, ← hsplit], .digits (hdigits s)⟩
  · rename_i hs
    cases h
    refine ⟨s.takeWhile (isDigit 10) ++ [','], ?_, .comma (hdigits s) fun _ hc => nomatch hc⟩
    rw [List.append_assoc, List.singleton_append, ← hs, ← hsplit]
  · rename_i s' _ _ hs
    split at h
    · rename_i hs'
      cases h
      refine ⟨s.takeWhile (isDigit 10) ++ ',' :: s'.takeWhile (isDigit 10), ?_,
        .comma (hdigits s) (hdigits s')⟩
      rw [List.append_assoc, List.cons_append, ← hs', ← hsplit, ← hs, ← hsplit]
    · cases h
  · cases h

/-- The mark behind a quantifier is part of it. -/
theorem quantifierToken_extent (least : Nat) (most : Option Nat) (braced : Bool) (s : List Char) :
    ∃ mark reluctant, quantifierToken least most braced s =
      (.quantifier ⟨least, most, reluctant, braced⟩, (quantifierToken least most braced s).2) ∧
      s = mark ++ (quantifierToken least most braced s).2 ∧ IsMark mark := by
  unfold quantifierToken
  split
  · exact ⟨['?'], true, rfl, rfl, .inr rfl⟩
  · exact ⟨[], false, rfl, rfl, .inl rfl⟩

end ContentBlocker.Regex
