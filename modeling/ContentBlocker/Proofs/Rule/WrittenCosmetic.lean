import ContentBlocker.Proofs.Rule.Separator
import ContentBlocker.Proofs.Rule.Spelling

/-!
# Cosmetic rules are read as they are written

A cosmetic rule is written as its domains with commas between them, its marker, and its body.  The
domains have no number sign, so the marker is where the first one stands, and it can be told from
what is behind it: a text has these three parts in one way only (`Marker.append_inj`), even if its
body has number signs or whole markers.

A text of parts that keep apart (`CosmeticText.IsWritten`) is read as a rule by its parts.
`CosmeticLine` is a rule as it can be written with one of the markers that are supported, and
`ofText?_cosmeticLine` is what it is read as.
-/

set_option autoImplicit false
namespace ContentBlocker

/-! ## The marker of a text -/

namespace Marker

theorem exists_chars (m : Marker) : ∃ rest, m.chars = '#' :: rest :=
  ⟨_, rfl⟩

section
variable {front : List Char} (h : '#' ∉ front) (m : Marker) (content : List Char)
include h

theorem takeWhile_append :
    (front ++ m.chars ++ content).takeWhile (· != '#') = front := by
  obtain ⟨rest, hrest⟩ := m.exists_chars
  rw [hrest, List.append_assoc, List.cons_append, List.takeWhile_append_of_pos,
    List.takeWhile_cons_of_neg (by simp), List.append_nil]
  intro c hc
  simpa using fun heq : c = '#' => h (heq ▸ hc)

theorem dropWhile_append :
    (front ++ m.chars ++ content).dropWhile (· != '#') = m.chars ++ content := by
  obtain ⟨rest, hrest⟩ := m.exists_chars
  rw [hrest, List.append_assoc, List.cons_append, List.dropWhile_append_of_pos,
    List.dropWhile_cons_of_neg (by simp)]
  intro c hc
  simpa using fun heq : c = '#' => h (heq ▸ hc)

/-- **A text is cut at its marker in one way only.** -/
theorem append_inj {front' : List Char} (h' : '#' ∉ front') {m' : Marker} {content' : List Char}
    (heq : front ++ m.chars ++ content = front' ++ m'.chars ++ content') :
    front = front' ∧ m = m' ∧ content = content' := by
  have hfront := takeWhile_append h m content
  have hread := congrArg read (dropWhile_append h m content)
  rw [heq, takeWhile_append h'] at hfront
  rw [heq, dropWhile_append h', read_chars, read_chars] at hread
  obtain ⟨rfl, rfl⟩ := Prod.mk.inj (Option.some.inj hread)
  exact ⟨hfront.symm, rfl, rfl⟩

theorem ofChars?_append (hline : content.any isLineEnd = false) :
    CosmeticText.ofChars? (front ++ m.chars ++ content) = some ⟨front, m, content⟩ := by
  rw [CosmeticText.ofChars?, dropWhile_append h, takeWhile_append h, read_chars]
  dsimp only
  rw [if_neg (by rw [hline]; exact Bool.false_ne_true)]

end
end Marker

/-! ## Domains before a marker -/

namespace ListedDomain

/-- A domain as it is written in lower case. -/
def chars (d : ListedDomain) : List Char :=
  tilde d.restricted ++ d.name.toList

/-- Domains with commas between them. -/
def listChars (domains : List ListedDomain) : List Char :=
  [','].intercalate (domains.map chars)

section
variable {domains : List ListedDomain} (h : ∀ d ∈ domains, IsDomainName d.name)
include h

theorem spells_chars : List.Forall₂ Spells (domains.map chars) domains := by
  rw [List.forall₂_map_left_iff, List.forall₂_same]
  intro d hd
  exact .intro d.restricted (h d hd) (lowerChars_of_isDomainChar (h d hd).isDomainChar)
    fun c hc => isBlank_of_isDomainChar ((h d hd).isDomainChar c hc)

theorem readList_listChars : readList ',' (listChars domains) = .ok domains :=
  readList_of_spells isForeign_comma (by decide) (spells_chars h)

theorem mem_listChars {c : Char} (hc : c ∈ listChars domains) :
    isDomainChar c = true ∨ c = '~' ∨ c = ',' := by
  rcases mem_intercalate hc with hc | ⟨s, hs, hc⟩
  · exact .inr (.inr (List.mem_singleton.1 hc))
  · obtain ⟨d, hd, rfl⟩ := List.mem_map.1 hs
    rcases List.mem_append.1 hc with hc | hc
    · exact .inr (.inl (eq_of_mem_tilde hc))
    · exact .inl ((h d hd).isDomainChar c hc)

theorem not_mem_listChars {c : Char} (hout : isDomainChar c = false) (hc : c ∉ ['~', ',']) :
    c ∉ listChars domains := by
  intro hmem
  rcases mem_listChars h hmem with hchar | rfl | rfl
  · rw [hout] at hchar
    cases hchar
  · exact hc (by decide)
  · exact hc (by decide)

end
end ListedDomain

/-! ## Parts that keep apart -/

namespace CosmeticText

/-- The text of a cosmetic rule in its parts. -/
def chars (parts : CosmeticText) : List Char :=
  parts.domains ++ parts.marker.chars ++ parts.content

/-- Parts that keep apart where they are written one behind the other. -/
structure IsWritten (parts : CosmeticText) : Prop where
  exists_domains : ∃ domains, (∀ d ∈ domains, IsDomainName d.name) ∧
    parts.domains = ListedDomain.listChars domains
  content_ne_nil : parts.content ≠ []
  trimChars_content : Text.trimChars parts.content = parts.content
  one_line : parts.content.any isLineEnd = false

namespace IsWritten

variable {parts : CosmeticText} (h : parts.IsWritten)
include h

theorem sharp_not_mem : '#' ∉ parts.domains := by
  obtain ⟨domains, hdomains, heq⟩ := h.exists_domains
  rw [heq]
  exact ListedDomain.not_mem_listChars hdomains rfl (by decide)

theorem ofChars?_chars : ofChars? parts.chars = some parts :=
  Marker.ofChars?_append h.sharp_not_mem parts.marker parts.content h.one_line

/-- A rule begins with a domain or with its marker. -/
theorem head?_chars {c : Char} (hc : parts.chars.head? = some c) :
    ListedDomain.isDomainChar c = true ∨ c = '~' ∨ c = ',' ∨ c = '#' := by
  obtain ⟨rest, hrest⟩ := parts.marker.exists_chars
  obtain ⟨domains, hdomains, heq⟩ := h.exists_domains
  rw [chars, hrest, List.append_assoc, List.cons_append, List.head?_append] at hc
  cases hfront : parts.domains.head? with
  | none =>
    rw [hfront] at hc
    obtain rfl := Option.some.inj hc
    exact .inr (.inr (.inr rfl))
  | some d =>
    rw [hfront] at hc
    obtain rfl := Option.some.inj hc
    have hd := ListedDomain.mem_listChars hdomains (heq ▸ List.mem_of_head? hfront)
    exact hd.imp id (.imp id .inl)

theorem trimChars_chars : Text.trimChars parts.chars = parts.chars := by
  refine Text.trimChars_eq_self (fun c hc => ?_) fun c hc => ?_
  · rcases h.head?_chars hc with hchar | rfl | rfl | rfl
    · exact isBlank_of_isDomainChar hchar
    all_goals rfl
  · rw [chars, List.getLast?_append, List.getLast?_eq_some_getLast h.content_ne_nil,
      Option.some_or, ← List.getLast?_eq_some_getLast, ← h.trimChars_content] at hc
    exact Text.isBlank_getLast_trimChars hc

theorem isRemark_chars : isRemark parts.chars = false := by
  refine isRemark_eq_false (List.append_ne_nil_of_right_ne_nil _ h.content_ne_nil) ?_ ?_
  · exact fun hhead => absurd (h.head?_chars hhead) (by decide)
  · exact fun hhead => absurd (h.head?_chars hhead) (by decide)

/-- **A written rule is read as a cosmetic rule in the parts that were written.** -/
theorem ofText?_chars : Rule.ofText? (String.ofList parts.chars) =
    (parts.toRule (String.ofList parts.chars)).map some := by
  rw [Rule.ofText?, String.toList_ofList, h.trimChars_chars, h.isRemark_chars, h.ofChars?_chars]
  rfl

end IsWritten
end CosmeticText

/-! ## Cosmetic rules -/

/-- A cosmetic rule as it can be written. -/
structure CosmeticLine where
  domains : List ListedDomain
  marker : Marker
  kind : CosmeticKind
  body : List Char
  isDomainName : ∀ d ∈ domains, IsDomainName d.name
  supported : marker.kind.supported? = some kind
  ne_nil : body ≠ []
  trimChars_eq : Text.trimChars body = body
  one_line : body.any isLineEnd = false
  /-- It is a script and not the call of a scriptlet. -/
  not_call : kind = .script → ¬ ScriptletCall.opening <+: body

theorem isExtendedSelector_iff {selector : List Char} : isExtendedSelector selector = true ↔
    ∃ token ∈ extendedTokens, token.toList <:+: selector := by
  rw [isExtendedSelector, List.any_eq_true]
  exact exists_congr fun token => and_congr_right fun _ => Text.occursIn_iff

namespace CosmeticLine

/-- The text of a rule. -/
def chars (line : CosmeticLine) : List Char :=
  ListedDomain.listChars line.domains ++ line.marker.chars ++ line.body

/-- The rule that is meant. -/
structure Means (line : CosmeticLine) (rule : Rule) : Prop where
  text_eq : rule.text = String.ofList line.chars
  permittedDomains_eq :
    rule.permittedDomains = (line.domains.filter (!·.restricted)).map (·.name)
  restrictedDomains_eq :
    rule.restrictedDomains = (line.domains.filter (·.restricted)).map (·.name)
  isException_eq : rule.isException = line.marker.isException
  body_of_script : line.kind = .script → rule.body = .script (String.ofList line.body)
  body_of_hide :
    line.kind ≠ .script → ∃ extended, rule.body = .hide extended (String.ofList line.body)
  /-- A selector is an extended one if the marker says so, or if it has what only such a one has. -/
  type_iff : rule.type = .extendedHide ↔ line.kind = .extendedHide ∨
    line.kind = .hide ∧ ∃ token ∈ extendedTokens, token.toList <:+: line.body

variable (line : CosmeticLine)

/-- The parts of the text of a rule. -/
def parts : CosmeticText where
  domains := ListedDomain.listChars line.domains
  marker := line.marker
  content := line.body

theorem isWritten_parts : line.parts.IsWritten where
  exists_domains := ⟨line.domains, line.isDomainName, rfl⟩
  content_ne_nil := line.ne_nil
  trimChars_content := line.trimChars_eq
  one_line := line.one_line

theorem sharp_not_mem : '#' ∉ ListedDomain.listChars line.domains :=
  line.isWritten_parts.sharp_not_mem

/-- What the rule does. -/
def ruleBody : RuleBody :=
  match line.kind with
  | .hide => .hide (isExtendedSelector line.body) (String.ofList line.body)
  | .extendedHide => .hide true (String.ofList line.body)
  | .script => .script (String.ofList line.body)

/-- The rule that is written. -/
def rule : Rule where
  text := String.ofList line.chars
  permittedDomains := permittedNames line.domains
  restrictedDomains := restrictedNames line.domains
  isException := line.marker.isException
  body := line.ruleBody

theorem ofContent_body : RuleBody.ofContent line.kind line.body = .ok line.ruleBody := by
  rw [RuleBody.ofContent.eq_def, ruleBody]
  cases hkind : line.kind with
  | hide => rfl
  | extendedHide => rfl
  | script =>
    dsimp only
    rw [if_neg fun hcall => line.not_call hkind (List.isPrefixOf_iff_prefix.1 hcall)]

theorem toRule_parts : line.parts.toRule (String.ofList line.chars) = .ok line.rule := by
  have htrim : Text.trimChars line.parts.content = line.body := line.trimChars_eq
  refine CosmeticText.toRule_eq_ok_iff.2 ⟨line.kind, line.domains, line.ruleBody, line.supported,
    ?_, ListedDomain.readList_listChars line.isDomainName, ?_, rfl⟩
  · rw [htrim]
    exact line.ne_nil
  · rw [htrim]
    exact line.ofContent_body

theorem ofText?_chars : Rule.ofText? (String.ofList line.chars) = .ok (some line.rule) := by
  have hread := line.isWritten_parts.ofText?_chars
  rw [show line.parts.chars = line.chars from rfl, line.toRule_parts] at hread
  exact hread

theorem means_rule : line.Means line.rule where
  text_eq := rfl
  permittedDomains_eq := rfl
  restrictedDomains_eq := rfl
  isException_eq := rfl
  body_of_script := by
    intro hkind
    rw [rule, ruleBody, hkind]
  body_of_hide := by
    intro hkind
    rw [rule, ruleBody]
    cases hline : line.kind with
    | hide => exact ⟨_, rfl⟩
    | extendedHide => exact ⟨_, rfl⟩
    | script => exact absurd hline hkind
  type_iff := by
    rw [Rule.type, rule, ruleBody]
    cases hline : line.kind with
    | hide =>
      rw [← isExtendedSelector_iff]
      cases isExtendedSelector line.body <;> simp
    | extendedHide => simp
    | script => simp

end CosmeticLine

/-- **Reading a cosmetic rule undoes writing it, and its text has these parts in one way only.** -/
theorem ofText?_cosmeticLine (line : CosmeticLine) :
    (∃ rule, Rule.ofText? (String.ofList line.chars) = .ok (some rule) ∧ line.Means rule) ∧
    ∀ front marker content, '#' ∉ front → line.chars = front ++ Marker.chars marker ++ content →
      front = ListedDomain.listChars line.domains ∧ marker = line.marker ∧ content = line.body := by
  refine ⟨⟨line.rule, line.ofText?_chars, line.means_rule⟩, ?_⟩
  intro front marker content hfront heq
  exact Marker.append_inj hfront marker content line.sharp_not_mem heq.symm

/-- An exception whose selector has number signs and a marker of its own, and is an extended one for
what stands in it although its marker does not say so. -/
theorem ofText?_cosmeticLine_of_markers : ∃ line : CosmeticLine,
    line.domains = [⟨false, "a.com"⟩, ⟨true, "b.*"⟩] ∧ line.marker = ⟨true, .hide⟩ ∧
    line.body = "p:has(#x)##$#y".toList ∧ ∃ rule,
      Rule.ofText? "a.com,~b.*#@#p:has(#x)##$#y" = .ok (some rule) ∧ line.Means rule ∧
        rule.type = .extendedHide := by
  let line : CosmeticLine := {
    domains := [⟨false, "a.com"⟩, ⟨true, "b.*"⟩]
    marker := ⟨true, .hide⟩
    kind := .hide
    body := "p:has(#x)##$#y".toList
    isDomainName := fun d hd => by
      rcases List.mem_pair.1 hd with rfl | rfl <;> decide
    supported := rfl
    ne_nil := List.cons_ne_nil _ _
    trimChars_eq := by decide +kernel
    one_line := rfl
    not_call := nofun }
  have htext : String.ofList line.chars = "a.com,~b.*#@#p:has(#x)##$#y" := by
    decide +kernel
  obtain ⟨⟨rule, hread, hmeans⟩, -⟩ := ofText?_cosmeticLine line
  rw [htext] at hread
  have hextended : rule.type = .extendedHide :=
    hmeans.type_iff.2 (.inr ⟨rfl, ":has(", by decide, "p".toList, "#x)##$#y".toList, rfl⟩)
  exact ⟨line, rfl, rfl, rfl, rule, hread, hmeans, hextended⟩

end ContentBlocker
