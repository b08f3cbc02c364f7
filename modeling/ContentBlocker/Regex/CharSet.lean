import ContentBlocker.Regex.Escape

/-!
# Sets between square brackets

A set holds characters, classes named by a letter, and ranges `a-b`.  A hyphen is a range only
between two single characters: at the start or the end of the set it is itself, and next to a class
all three parts stand for themselves.  Behind a range nothing is remembered, so in `[a-c-e]` the
second hyphen is a character and `e` another.
-/

set_option autoImplicit false
namespace ContentBlocker.Regex

open Text (isDigit digitValue?)

/-- An atom that an escape has written, as an item of a set. -/
def Atom.toSetItem? : Atom → Option SetItem
  | .char code => some (.char code)
  | .named k => some (.named k)
  | .reference (.name name) => some (.reference name)
  | .reference (.number _) => none
  | .any => none
  | .set _ _ => none

/-- Reads an escape in a set from behind its backslash.  A digit after `\c` writes that digit of
hundreds and sixteen. -/
def readSetEscape : List Char → Option (SetItem × List Char)
  | 'b' :: rest => some (.char 0x08, rest)
  | 'B' :: _ => none
  | 'c' :: d :: rest =>
    if let some n := digitValue? 10 d then some (.char (100 * n + 16), rest)
    else if d = '_' then some (.char 31, rest)
    else (readEscape 0 ('c' :: d :: rest)).bind fun (a, rest) => a.toSetItem?.map (·, rest)
  | s => (readEscape 0 s).bind fun (a, rest) => a.toSetItem?.map (·, rest)

private theorem length_readEscape_item {s rest : List Char} {i : SetItem}
    (h : ((readEscape 0 s).bind fun (p : Atom × List Char) => p.1.toSetItem?.map (·, p.2)) =
      some (i, rest)) : rest.length ≤ s.length := by
  obtain ⟨⟨_, _⟩, hp, hq⟩ := Option.bind_eq_some_iff.1 h
  obtain ⟨j, -, hj⟩ := Option.map_eq_some_iff.1 hq
  cases hj
  exact length_readEscape hp

theorem length_readSetEscape {s rest : List Char} {i : SetItem}
    (h : readSetEscape s = some (i, rest)) : rest.length ≤ s.length := by
  unfold readSetEscape at h
  split at h
  · cases h; simp
  · cases h
  · split at h
    · cases h; simp [Nat.le_succ_of_le]
    · split at h
      · cases h; simp [Nat.le_succ_of_le]
      · exact length_readEscape_item h
  · exact length_readEscape_item h

/-- Reads one character of a set, as it is or escaped. -/
def readSetAtom : List Char → Option (SetItem × List Char)
  | [] => none
  | '\\' :: rest => readSetEscape rest
  | c :: rest => some (.char c.toNat, rest)

theorem length_readSetAtom {s rest : List Char} {i : SetItem}
    (h : readSetAtom s = some (i, rest)) : rest.length < s.length := by
  unfold readSetAtom at h
  split at h
  · cases h
  · exact Nat.lt_succ_of_le (length_readSetEscape h)
  · cases h; simp

/-- The items that `first-last` stands for, unless it is a range from a higher to a lower code. -/
def itemsOfRange? : SetItem → SetItem → Option (List SetItem)
  | .char a, .char b => if a ≤ b then some [.range a b] else none
  | first, last => some [first, .char 0x2d, last]

/-- Reads one character of a set, or two with a hyphen between them. -/
def readSetPart (s : List Char) : Option (List SetItem × List Char) :=
  match readSetAtom s with
  | none => none
  | some (first, rest) =>
    match rest with
    | '-' :: rest' =>
      if rest'.head? = some ']' then
        some ([first], rest)
      else
        match readSetAtom rest' with
        | none => none
        | some (last, rest'') => (itemsOfRange? first last).map (·, rest'')
    | _ => some ([first], rest)

theorem length_readSetPart {s rest : List Char} {items : List SetItem}
    (h : readSetPart s = some (items, rest)) : rest.length < s.length := by
  unfold readSetPart at h
  split at h
  · cases h
  · rename_i first left hfirst
    have hle := length_readSetAtom hfirst
    split at h
    · split at h
      · cases h; exact hle
      · split at h
        · cases h
        · rename_i hlast
          have hle' := length_readSetAtom hlast
          obtain ⟨_, -, hq⟩ := Option.map_eq_some_iff.1 h
          cases hq
          simp only [List.length_cons] at hle
          omega
    · cases h; exact hle

/-- Reads the items of a set up to its closing bracket. -/
def readSetItems (s : List Char) : Option (List SetItem × List Char) :=
  match s with
  | ']' :: rest => some ([], rest)
  | s =>
    match _h : readSetPart s with
    | none => none
    | some (items, rest) => (readSetItems rest).map fun (more, rest) => (items ++ more, rest)
termination_by s.length
decreasing_by exact length_readSetPart _h

theorem length_readSetItems {s rest : List Char} {items : List SetItem}
    (h : readSetItems s = some (items, rest)) : rest.length ≤ s.length := by
  fun_induction readSetItems s generalizing items rest with
  | case1 => cases h; simp
  | case2 => cases h
  | case3 s _ part left hpart ih =>
    have := length_readSetPart hpart
    obtain ⟨⟨_, _⟩, hp, hq⟩ := Option.map_eq_some_iff.1 h
    cases hq
    have := ih hp
    omega

/-- Reads a set from behind its opening bracket. -/
def readSet : List Char → Option (Atom × List Char)
  | '^' :: rest => (readSetItems rest).map fun (items, rest) => (.set true items, rest)
  | s => (readSetItems s).map fun (items, rest) => (.set false items, rest)

theorem length_readSet {s rest : List Char} {a : Atom}
    (h : readSet s = some (a, rest)) : rest.length ≤ s.length := by
  unfold readSet at h
  split at h
  · obtain ⟨⟨_, _⟩, hp, hq⟩ := Option.map_eq_some_iff.1 h
    cases hq
    exact Nat.le_succ_of_le (length_readSetItems hp)
  · obtain ⟨⟨_, _⟩, hp, hq⟩ := Option.map_eq_some_iff.1 h
    cases hq
    exact length_readSetItems hp

end ContentBlocker.Regex
