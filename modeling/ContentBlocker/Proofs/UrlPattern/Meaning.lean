import ContentBlocker.Proofs.Regex.Matching
import ContentBlocker.Proofs.UrlPattern.Filter

/-!
# What a pattern says about a URL

A pattern is compared with a URL in two ways.  One is told without regular expressions
(`MatchesUrl`): the bars at the ends of the pattern say where in the URL the text between them has
to be, and of that text each character stands for itself, but for `*`, which stands for any text,
and `^`, which stands for one of four characters or for nothing.  The other is to search the URL for
the url-filter of the pattern.  They agree on URLs without line ends (`finds_toFilter_iff`).

The url-filter is a row of parts, and a row of parts matches what its parts match one after another
(`Node.matches_ofParts_append`).  So each character of the pattern and each of the anchors is looked
at on its own (`matches_charPart_iff`, `matches_hostParts_iff`).
-/

set_option autoImplicit false
namespace ContentBlocker

open Regex

/-! ## Patterns and URLs -/

namespace UrlPattern

/-- The units of a text of ASCII. -/
def units (s : String) : List Nat :=
  s.toList.map Char.toNat

/-- Whether a character of a pattern stands for a part of a URL. -/
def CharMatches (c : Char) (part : List Nat) : Prop :=
  if c = '*' then True
  else if c = '^' then part = [] ∨ ∃ unit ∈ units "/:&?", part = [unit]
  else part = [c.toNat]

/-- Whether a text in a pattern stands for a part of a URL: the part can be cut into one piece for
each character. -/
def TextMatches : List Char → List Nat → Prop
  | [], part => part = []
  | c :: text, part => ∃ piece rest, part = piece ++ rest ∧ CharMatches c piece ∧
      TextMatches text rest

/-- What a pattern says that stands behind its bars at the start, about a URL from some place on.
With a bar at the end it is about all that there is from that place. -/
def MatchesFrom (rest : List Char) (url : List Nat) : Prop :=
  if rest.getLast? = some '|' then TextMatches rest.dropLast url
  else ∃ part after, url = part ++ after ∧ TextMatches rest part

/-- Whether a unit may stand in a label of a host: a letter in lower case, a digit or a hyphen. -/
def isLabelUnit (unit : Nat) : Bool :=
  (0x61 ≤ unit && unit ≤ 0x7a) || (0x30 ≤ unit && unit ≤ 0x39) || unit == 0x2d

/-- A start of a URL behind which its host begins, or the part of the host behind its first label:
a scheme of some of the letters of `http`, `https`, `ws` and `wss`, a colon and two slashes, and a
label with its full stop or nothing. -/
def HostLead (lead : List Nat) : Prop :=
  ∃ scheme label, lead = scheme ++ units "://" ++ label ∧
    scheme ≠ [] ∧ (∀ unit ∈ scheme, unit ∈ units "htpsw") ∧
    (label = [] ∨ ∃ name, label = name ++ units "." ∧ name ≠ [] ∧
      ∀ unit ∈ name, isLabelUnit unit = true)

/-- **What a pattern says about a URL.**  Behind two bars it is about the URL from its host or the
second label of the host on, behind one bar about the URL from its start on, and otherwise about the
URL from any place on. -/
def MatchesUrl : List Char → List Nat → Prop
  | '|' :: '|' :: rest, url => ∃ lead behind, url = lead ++ behind ∧ HostLead lead ∧
      MatchesFrom rest behind
  | '|' :: rest, url => MatchesFrom rest url
  | rest, url => ∃ before behind, url = before ++ behind ∧ MatchesFrom rest behind

end UrlPattern

/-! ## Parts in a row -/

namespace Regex

theorem Node.matches_ofParts_cons {part : Node} {parts : List Node} {before text after : List Nat} :
    (Node.ofParts (part :: parts)).Matches before text after ↔ ∃ p q, text = p ++ q ∧
      part.Matches before p (q ++ after) ∧ (Node.ofParts parts).Matches (before ++ p) q after :=
  Iff.rfl

/-- **A row of parts matches what its parts match one after another.** -/
theorem Node.matches_ofParts_append {parts parts' : List Node} {before text after : List Nat} :
    (Node.ofParts (parts ++ parts')).Matches before text after ↔ ∃ p q, text = p ++ q ∧
      (Node.ofParts parts).Matches before p (q ++ after) ∧
      (Node.ofParts parts').Matches (before ++ p) q after := by
  induction parts generalizing before text with
  | nil =>
    constructor
    · intro h
      exact ⟨[], text, rfl, rfl, by rwa [List.append_nil]⟩
    · rintro ⟨p, q, rfl, rfl, h⟩
      rwa [List.append_nil] at h
  | cons part parts ih =>
    rw [List.cons_append, matches_ofParts_cons]
    constructor
    · rintro ⟨p, q, rfl, hpart, hrest⟩
      obtain ⟨q₁, q₂, rfl, hparts, hparts'⟩ := ih.1 hrest
      refine ⟨p ++ q₁, q₂, by rw [List.append_assoc], ⟨p, q₁, rfl, ?_, hparts⟩, ?_⟩
      · rwa [← List.append_assoc]
      · rwa [← List.append_assoc]
    · rintro ⟨_, q₂, rfl, ⟨p, q₁, rfl, hpart, hparts⟩, hparts'⟩
      refine ⟨p, q₁ ++ q₂, by rw [List.append_assoc], ?_, ih.2 ⟨q₁, q₂, rfl, hparts, ?_⟩⟩
      · rwa [List.append_assoc]
      · rwa [List.append_assoc]

theorem Node.matches_ofParts_singleton {part : Node} {before text after : List Nat} :
    (Node.ofParts [part]).Matches before text after ↔ part.Matches before text after := by
  rw [matches_ofParts_cons]
  constructor
  · rintro ⟨p, q, rfl, hpart, rfl⟩
    rwa [List.append_nil]
  · intro h
    exact ⟨text, [], (List.append_nil text).symm, h, rfl⟩

end Regex

/-! ## The parts of a url-filter -/

namespace UrlPattern

variable {before text after : List Nat}

theorem contains_separatorAtom_iff {unit : Nat} :
    separatorAtom.contains unit = true ↔ unit ∈ units "/:&?" := by
  simp [separatorAtom, Atom.contains, SetItem.contains, units]

/-- What is written for a character of a pattern matches what the character stands for. -/
theorem matches_charPart_iff {c : Char} (hline : ∀ unit ∈ text, isLineUnit unit = false) :
    (charPart c).Matches before text after ↔ CharMatches c text := by
  rw [charPart, CharMatches]
  split
  · rw [matches_repetition_atom_iff]
    refine ⟨fun _ => trivial, fun _ => ⟨Nat.zero_le _, fun unit hunit => ?_⟩⟩
    rw [Atom.contains, hline unit hunit]
    rfl
  · split
    · rw [matches_optional_iff]
      refine or_congr_right ⟨?_, ?_⟩
      · rintro ⟨unit, rfl, hunit⟩
        exact ⟨unit, contains_separatorAtom_iff.1 hunit, rfl⟩
      · rintro ⟨unit, hunit, rfl⟩
        exact ⟨unit, rfl, contains_separatorAtom_iff.2 hunit⟩
    · constructor
      · rintro ⟨unit, rfl, hunit⟩
        rw [beq_iff_eq.1 hunit]
      · rintro rfl
        exact ⟨c.toNat, rfl, beq_self_eq_true _⟩

/-- **The parts of the characters of a pattern match what the characters stand for.** -/
theorem matches_map_charPart_iff {body : List Char}
    (hline : ∀ unit ∈ text, isLineUnit unit = false) :
    (Node.ofParts (body.map charPart)).Matches before text after ↔ TextMatches body text := by
  induction body generalizing before text with
  | nil => exact Iff.rfl
  | cons c body ih =>
    rw [List.map_cons, Node.matches_ofParts_cons, TextMatches]
    refine exists_congr fun p => exists_congr fun q => and_congr_right fun htext => ?_
    subst htext
    have hp : ∀ unit ∈ p, isLineUnit unit = false :=
      fun unit hunit => hline unit (List.mem_append_left q hunit)
    have hq : ∀ unit ∈ q, isLineUnit unit = false :=
      fun unit hunit => hline unit (List.mem_append_right p hunit)
    rw [matches_charPart_iff hp, ih hq]

/-- Whether the rest of a URL fits the rest of a pattern, taken apart. -/
theorem matches_behind_iff {body : List Char} {stop : Bool}
    (hline : ∀ unit ∈ text, isLineUnit unit = false) :
    (Node.ofParts (body.map charPart ++ if stop then [.anchor .stop] else [])).Matches
        before text after ↔ TextMatches body text ∧ (stop = true → after = []) := by
  rw [Node.matches_ofParts_append]
  constructor
  · rintro ⟨p, q, rfl, hbody, hstop⟩
    cases stop with
    | false =>
      obtain rfl : q = [] := hstop
      rw [List.append_nil] at hline ⊢
      exact ⟨(matches_map_charPart_iff hline).1 hbody, fun h => nomatch h⟩
    | true =>
      obtain ⟨rfl, hafter⟩ := Node.matches_ofParts_singleton.1 hstop
      rw [List.append_nil] at hline ⊢
      exact ⟨(matches_map_charPart_iff hline).1 hbody, fun _ => hafter⟩
  · rintro ⟨hbody, hafter⟩
    refine ⟨text, [], (List.append_nil text).symm, (matches_map_charPart_iff hline).2 hbody, ?_⟩
    cases stop with
    | false => rfl
    | true => exact Node.matches_ofParts_singleton.2 ⟨rfl, hafter rfl⟩

/-! ## The anchor of a host -/

theorem contains_schemeAtom_iff {unit : Nat} :
    StartAnchor.schemeAtom.contains unit = true ↔ unit ∈ units "htpsw" := by
  simp [StartAnchor.schemeAtom, Atom.contains, SetItem.contains, units]

theorem contains_labelAtom (unit : Nat) :
    StartAnchor.labelAtom.contains unit = isLabelUnit unit := by
  simp [StartAnchor.labelAtom, Atom.contains, SetItem.contains, isLabelUnit, Bool.or_assoc]

theorem matches_char_iff {code : Nat} :
    (Node.atom (.char code)).Matches before text after ↔ text = [code] := by
  constructor
  · rintro ⟨unit, rfl, hunit⟩
    rw [beq_iff_eq.1 hunit]
  · rintro rfl
    exact ⟨code, rfl, beq_self_eq_true code⟩

/-- One unit of a kind, and more of them. -/
theorem matches_repetition_one_iff {a : Atom} {reluctant braced : Bool} {written : List Char} :
    (Node.repetition ⟨1, none, reluctant, braced⟩ written (.atom a)).Matches before text after ↔
      text ≠ [] ∧ ∀ unit ∈ text, a.contains unit = true := by
  rw [matches_repetition_atom_iff]
  exact and_congr_left fun _ => List.length_pos_iff

/-- What is written for the first label of a host, which may be left out. -/
theorem matches_label_iff {kind : Option (List Nat)} {written inner : List Char} :
    (Node.repetition ⟨0, some 1, false, false⟩ written (.group (.capture kind)
      (.ofParts [.repetition ⟨1, none, false, false⟩ inner (.atom StartAnchor.labelAtom),
        .atom (.char 0x2e)]))).Matches before text after ↔
      text = [] ∨ ∃ name, text = name ++ units "." ∧ name ≠ [] ∧
        ∀ unit ∈ name, isLabelUnit unit = true := by
  simp only [← contains_labelAtom]
  rw [matches_optional_iff]
  refine or_congr_right ?_
  rw [Node.Matches, Node.matches_ofParts_cons]
  constructor
  · rintro ⟨name, stop, rfl, hname, hstop⟩
    rw [Node.matches_ofParts_singleton, matches_char_iff] at hstop
    obtain ⟨hne, hall⟩ := matches_repetition_one_iff.1 hname
    exact ⟨name, by rw [hstop]; rfl, hne, hall⟩
  · rintro ⟨name, rfl, hne, hall⟩
    refine ⟨name, units ".", rfl, matches_repetition_one_iff.2 ⟨hne, hall⟩, ?_⟩
    exact Node.matches_ofParts_singleton.2 (matches_char_iff.2 rfl)

/-- What is written for a host matches what stands before it or before its second label. -/
theorem matches_hostParts_iff :
    (Node.ofParts (StartAnchor.parts .host)).Matches before text after ↔
      before = [] ∧ HostLead text := by
  rw [StartAnchor.parts, HostLead]
  simp only [← contains_schemeAtom_iff]
  constructor
  · rintro ⟨_, _, rfl, ⟨rfl, hstart⟩, scheme, _, rfl, hscheme, _, _, rfl, hcolon, _, _, rfl, hslash,
      _, _, rfl, hslash', label, _, rfl, hlabel, rfl⟩
    rw [matches_char_iff] at hcolon hslash hslash'
    subst hcolon hslash hslash'
    obtain ⟨hne, hall⟩ := matches_repetition_one_iff.1 hscheme
    refine ⟨hstart, scheme, label, ?_, hne, hall, matches_label_iff.1 hlabel⟩
    simp [units]
  · rintro ⟨rfl, scheme, label, rfl, hne, hall, hlabel⟩
    refine ⟨[], _, rfl, ⟨rfl, rfl⟩, scheme, units "://" ++ label, List.append_assoc _ _ _,
      matches_repetition_one_iff.2 ⟨hne, hall⟩, units ":", units "//" ++ label, rfl,
      matches_char_iff.2 rfl, units "/", units "/" ++ label, rfl, matches_char_iff.2 rfl,
      units "/", label, rfl, matches_char_iff.2 rfl, label, [], (List.append_nil label).symm,
      matches_label_iff.2 hlabel, rfl⟩

/-! ## The search for a url-filter -/

/-- What is behind the bars at the start of a pattern, once it has been taken apart. -/
theorem matchesFrom_iff {rest : List Char} {url : List Nat} :
    MatchesFrom rest url ↔ ∃ part after, url = part ++ after ∧
      TextMatches (splitStop rest).1 part ∧ ((splitStop rest).2 = true → after = []) := by
  rw [MatchesFrom, splitStop]
  split
  · constructor
    · intro h
      exact ⟨url, [], (List.append_nil url).symm, h, fun _ => rfl⟩
    · rintro ⟨part, after, rfl, h, hafter⟩
      rw [hafter rfl, List.append_nil]
      exact h
  · constructor
    · rintro ⟨part, after, hurl, h⟩
      exact ⟨part, after, hurl, h, fun hstop => nomatch hstop⟩
    · rintro ⟨part, after, hurl, h, -⟩
      exact ⟨part, after, hurl, h⟩

/-- A search finds the parts of an anchor and, behind them, what fits the rest of the pattern. -/
theorem finds_parts_iff {start : StartAnchor} {rest : List Char} {url : List Nat}
    (hline : ∀ unit ∈ url, isLineUnit unit = false) :
    (Node.ofParts (parts ⟨start, (splitStop rest).1, (splitStop rest).2⟩)).Finds url ↔
      ∃ before lead behind, url = before ++ (lead ++ behind) ∧
        (Node.ofParts start.parts).Matches before lead behind ∧ MatchesFrom rest behind := by
  constructor
  · rintro ⟨before, found, after, rfl, hfound⟩
    rw [parts, List.append_assoc, Node.matches_ofParts_append] at hfound
    obtain ⟨lead, part, rfl, hlead, hpart⟩ := hfound
    have hpartLine : ∀ unit ∈ part, isLineUnit unit = false :=
      fun unit hunit => hline unit (by simp [hunit])
    rw [matches_behind_iff hpartLine] at hpart
    refine ⟨before, lead, part ++ after, by simp, hlead, matchesFrom_iff.2 ?_⟩
    exact ⟨part, after, rfl, hpart⟩
  · rintro ⟨before, lead, behind, rfl, hlead, hbehind⟩
    obtain ⟨part, after, rfl, hpart⟩ := matchesFrom_iff.1 hbehind
    have hpartLine : ∀ unit ∈ part, isLineUnit unit = false :=
      fun unit hunit => hline unit (by simp [hunit])
    refine ⟨before, lead ++ part, after, by simp, ?_⟩
    rw [parts, List.append_assoc, Node.matches_ofParts_append]
    exact ⟨lead, part, rfl, hlead, (matches_behind_iff hpartLine).2 hpart⟩

/-- The parts of a pattern match where the pattern says so. -/
theorem finds_ofChars_iff {pattern : List Char} {url : List Nat}
    (hline : ∀ unit ∈ url, isLineUnit unit = false) :
    (Node.ofParts (parts (ofChars pattern))).Finds url ↔ MatchesUrl pattern url := by
  rw [ofChars]
  dsimp only
  rw [finds_parts_iff hline]
  unfold StartAnchor.split
  split
  · rw [MatchesUrl]
    constructor
    · rintro ⟨before, lead, behind, rfl, hlead, hbehind⟩
      obtain ⟨rfl, hhost⟩ := matches_hostParts_iff.1 hlead
      exact ⟨lead, behind, rfl, hhost, hbehind⟩
    · rintro ⟨lead, behind, rfl, hhost, hbehind⟩
      exact ⟨[], lead, behind, rfl, matches_hostParts_iff.2 ⟨rfl, hhost⟩, hbehind⟩
  · rename_i rest hne
    rw [MatchesUrl]
    · constructor
      · rintro ⟨before, lead, behind, rfl, hlead, hbehind⟩
        obtain ⟨rfl, rfl⟩ := Node.matches_ofParts_singleton.1 hlead
        exact hbehind
      · intro h
        exact ⟨[], [], url, rfl, Node.matches_ofParts_singleton.2 ⟨rfl, rfl⟩, h⟩
    · exact hne
  · rename_i hhost hurl
    rw [MatchesUrl]
    · constructor
      · rintro ⟨before, lead, behind, rfl, rfl, hbehind⟩
        exact ⟨before, behind, rfl, hbehind⟩
      · rintro ⟨before, behind, rfl, hbehind⟩
        exact ⟨before, [], behind, rfl, rfl, hbehind⟩
    · exact hhost
    · exact hurl

/-- **The url-filter of a pattern says the same as the pattern.**  An ASCII pattern has a
url-filter, and a search for that in a URL without line ends finds something exactly if the pattern
is about the URL. -/
theorem finds_toFilter_iff {pattern : String} {url : List Nat}
    (hascii : isAscii pattern.toList = true) (hline : ∀ unit ∈ url, isLineUnit unit = false) :
    Regex.check (toFilter pattern) = none ∧
      (Finds (toFilter pattern) url ↔ MatchesUrl pattern.toList url) := by
  refine ⟨by rw [check_toFilter, if_pos hascii], ?_⟩
  rw [Finds, toFilter, String.toList_ofList, parse?_filterChars, ← finds_ofChars_iff hline]
  constructor
  · rintro ⟨node, hnode, hfinds⟩
    rwa [Option.some.inj hnode]
  · exact fun h => ⟨_, rfl, h⟩

/-- A pattern with all that patterns have: a host, a character that is escaped, any text, a
separator, and the end. -/
theorem finds_toFilter_of_host : Regex.check (toFilter "||a.*^|") = none ∧
    Finds (toFilter "||a.*^|") (units "https://www.a.de/") := by
  have hascii : isAscii "||a.*^|".toList = true := by decide
  have hline : ∀ unit ∈ units "https://www.a.de/", isLineUnit unit = false := by decide
  obtain ⟨hcheck, hfinds⟩ := finds_toFilter_iff hascii hline
  refine ⟨hcheck, hfinds.2 ⟨units "https://www.", units "a.de/", rfl, ?_, ?_⟩⟩
  · exact ⟨units "https", units "www.", rfl, by decide, by decide,
      .inr ⟨units "www", rfl, by decide, by decide⟩⟩
  · show TextMatches "a.*^".toList (units "a.de/")
    exact ⟨units "a", _, rfl, rfl, units ".", _, rfl, rfl, units "de", _, rfl, trivial,
      units "/", _, rfl, .inr ⟨'/'.toNat, by decide, rfl⟩, rfl⟩

end UrlPattern
end ContentBlocker
