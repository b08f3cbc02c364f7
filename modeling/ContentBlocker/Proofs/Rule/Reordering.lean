import ContentBlocker.Proofs.Conversion.ModifierNames
import ContentBlocker.Proofs.Rule.WrittenNetwork
import ContentBlocker.Proofs.Text.Lines
import Mathlib.Data.List.Perm.Basic

/-!
# The order of modifiers

The modifiers of a network rule may be written in any order.  Some of them turn a property on or
off, and where several are about the same property the last one counts.  As long as there is one at
most about each (`Modifier.SetsOnce`), a rule in another order is read if the rule is, and it is the
same rule apart from its text and the order of four lists (`Reorders.reordered`).

`Reorders` is said of two texts with the same pattern and the same modifiers in some order.  A text
with a given order is there for every permutation of the modifiers (`reorders_networkChars`).
-/

set_option autoImplicit false
namespace ContentBlocker

/-! ## Lists in another order -/

/-- A list in another order is read as what the list is read as, in another order. -/
theorem mapM_perm {ε α β : Type} {read : α → Except ε β} {xs xs' : List α} {ys : List β}
    (hperm : xs.Perm xs') (h : xs.mapM read = .ok ys) :
    ∃ ys', xs'.mapM read = .ok ys' ∧ ys.Perm ys' := by
  obtain ⟨ys', hread, hperm'⟩ := List.perm_comp_forall₂ hperm.symm (mapM_eq_ok_iff_forall₂.1 h)
  exact ⟨ys', mapM_eq_ok_iff_forall₂.2 hread, hperm'.symm⟩

theorem eq_of_perm_of_length_le_one {α : Type} {xs ys : List α} (hperm : xs.Perm ys)
    (h : xs.length ≤ 1) : xs = ys := by
  match xs, h with
  | [], _ => exact hperm.nil_eq
  | [x], _ => exact (List.perm_singleton.1 hperm.symm).symm

theorem countP_le_of_forall₂ {α β : Type} {R : α → β → Prop} {p : α → Bool} {q : β → Bool}
    (h : ∀ x y, R x y → q y = true → p x = true) {xs : List α} {ys : List β}
    (hR : List.Forall₂ R xs ys) : ys.countP q ≤ xs.countP p := by
  induction hR with
  | nil => exact Nat.le_refl 0
  | @cons x y xs ys hxy _ ih =>
    rw [List.countP_cons, List.countP_cons]
    have hhead := h x y hxy
    cases hq : q y with
    | false =>
      rw [if_neg Bool.false_ne_true]
      exact Nat.le_trans ih (Nat.le_add_right _ _)
    | true =>
      rw [if_pos rfl, if_pos (hhead hq)]
      exact Nat.add_le_add_right ih 1

/-! ## Texts with the same modifiers -/

/-- The pattern of the text of a network rule. -/
def patternChars (text : List Char) : List Char :=
  (splitModifiers (splitException text).2).1

/-- The modifiers of the text of a network rule. -/
def optionTexts (text : List Char) : List (List Char) :=
  Modifier.parts (splitModifiers (splitException text).2).2

/-- Two texts differ in the order of their modifiers only. -/
structure Reorders (text text' : List Char) : Prop where
  isException_eq : (splitException text).1 = (splitException text').1
  pattern_eq : patternChars text = patternChars text'
  perm : (optionTexts text).Perm (optionTexts text')

theorem Reorders.symm {text text' : List Char} (h : Reorders text text') : Reorders text' text :=
  ⟨h.isException_eq.symm, h.pattern_eq.symm, h.perm.symm⟩

theorem isElement_of_mem_parts {s part : List Char} (h : part ∈ Modifier.parts s) :
    IsElement ',' part := by
  obtain ⟨hpart, hne⟩ := List.mem_filter.1 h
  obtain ⟨piece, hpiece, rfl⟩ := List.mem_map.1 hpart
  refine ⟨fun hnil => ?_, fun hmem => not_mem_of_mem_splitOn hpiece ?_, ?_⟩
  · rw [hnil] at hne
    cases hne
  · obtain ⟨before, after, hspec, -⟩ := Text.trimChars_spec piece
    rw [hspec]
    exact List.mem_append_left _ (List.mem_append_right _ hmem)
  · exact Text.trimChars_eq_self (fun c => Text.isBlank_head_trimChars)
      fun c => Text.isBlank_getLast_trimChars

/-- The pattern of a rule that is no exception does not begin as an exception does. -/
theorem not_exception_patternChars {text : List Char} (h : (splitException text).1 = false) :
    ¬ ['@', '@'] <+: patternChars text := by
  intro hprefix
  have hsplit : splitException text = (false, text) := by
    rw [splitException.eq_def] at h ⊢
    split at h
    · cases h
    · rfl
  have hpattern : (splitModifiers text).1 <+: text := by
    rw [splitModifiers]
    split
    · exact List.prefix_rfl
    · exact List.take_prefix _ _
  rw [patternChars, hsplit] at hprefix
  obtain ⟨rest, rfl⟩ := hprefix.trans hpattern
  cases h

/-- **The modifiers of a text can be written in every order.** -/
theorem reorders_networkChars {text : List Char} {options : List (List Char)}
    (hperm : (optionTexts text).Perm options) :
    Reorders text (networkChars (splitException text).1 (patternChars text) options) := by
  have hexception :
      splitException (networkChars (splitException text).1 (patternChars text) options) =
        ((splitException text).1, patternChars text ++ optionChars options) :=
    splitException_networkChars not_exception_patternChars options
  have hmodifiers : splitModifiers (patternChars text ++ optionChars options) =
      (patternChars text, [','].intercalate options) := by
    rcases splitModifiers_cases (splitException text).2 with hnone | hstops
    · have hoptions : options = [] := by
        rw [optionTexts, hnone] at hperm
        exact hperm.nil_eq.symm
      rw [hoptions, patternChars, hnone]
      exact (congrArg splitModifiers (List.append_nil _)).trans hnone
    · exact hstops.splitModifiers_optionChars options
  have helement : ∀ s ∈ options, IsElement ',' s := fun s hs =>
    isElement_of_mem_parts (hperm.mem_iff.2 hs)
  constructor
  · rw [hexception]
  · show patternChars text = (splitModifiers (splitException _).2).1
    rw [hexception, hmodifiers]
  · show (optionTexts text).Perm (Modifier.parts (splitModifiers (splitException _).2).2)
    rw [hexception, hmodifiers, Modifier.parts_intercalate helement]
    exact hperm

/-! ## What a modifier with a name can turn on or off -/

namespace Modifier

/-- No property is turned on or off by more than one of the modifiers. -/
structure SetsOnce (options : List (List Char)) : Prop where
  party : options.countP (fun s => partyNames.contains (writtenName s)) ≤ 1
  matchCase : options.countP (fun s => writtenName s == "match-case") ≤ 1

theorem name_of_setting {s : List Char} {modifier : Modifier} (h : ofChars s = .ok modifier) :
    (modifier.thirdParty?.isSome = true → partyNames.contains (writtenName s) = true) ∧
      (modifier.matchCase?.isSome = true → (writtenName s == "match-case") = true) := by
  have hnamed := named_of_ofChars h
  rw [writtenName]
  generalize (split s).2.1 = name at hnamed
  refine ⟨fun hset => ?_, fun hset => ?_⟩
  · cases hnamed with
    | party hname => exact List.contains_iff_mem.2 hname
    | domain | matchCase | document | replace | contentType => cases hset
  · cases hnamed with
    | matchCase => exact beq_iff_eq.2 rfl
    | domain | party | document | replace | contentType => cases hset

section
variable {options : List (List Char)} {modifiers : List Modifier}

theorem SetsOnce.length_le (h : SetsOnce options) (hread : options.mapM ofChars = .ok modifiers) :
    (modifiers.filterMap thirdParty?).length ≤ 1 ∧ (modifiers.filterMap matchCase?).length ≤ 1 := by
  have hforall := mapM_eq_ok_iff_forall₂.1 hread
  have hparty := countP_le_of_forall₂
    (fun s m (h : ofChars s = .ok m) => (name_of_setting h).1) hforall
  have hcase := countP_le_of_forall₂
    (fun s m (h : ofChars s = .ok m) => (name_of_setting h).2) hforall
  rw [List.length_filterMap_eq_countP, List.length_filterMap_eq_countP]
  exact ⟨Nat.le_trans hparty h.party, Nat.le_trans hcase h.matchCase⟩

end

/-- Where one modifier at most is about a property, the order does not matter for it. -/
theorem lastSetting_eq_of_perm {setting? : Modifier → Option Bool}
    {modifiers modifiers' : List Modifier} (hperm : modifiers.Perm modifiers')
    (h : (modifiers.filterMap setting?).length ≤ 1) :
    lastSetting setting? modifiers = lastSetting setting? modifiers' := by
  rw [lastSetting, lastSetting, eq_of_perm_of_length_le_one (hperm.filterMap setting?) h]

end Modifier

/-! ## Rules with the same modifiers -/

/-- Two network rules are the same but for the order in which they name content types. -/
structure NetworkRule.Reordered (network network' : NetworkRule) : Prop where
  pattern_eq : network.pattern = network'.pattern
  regex_eq : network.regex = network'.regex
  permittedTypes_perm : network.permittedTypes.Perm network'.permittedTypes
  restrictedTypes_perm : network.restrictedTypes.Perm network'.restrictedTypes
  checksParty_eq : network.checksParty = network'.checksParty
  isThirdParty_eq : network.isThirdParty = network'.isThirdParty
  matchesCase_eq : network.matchesCase = network'.matchesCase
  isDocumentException_eq : network.isDocumentException = network'.isDocumentException
  isReplace_eq : network.isReplace = network'.isReplace

/-- Two rules are the same network rule but for their texts and the order in which they name domains
and content types. -/
structure Rule.Reordered (rule rule' : Rule) : Prop where
  permittedDomains_perm : rule.permittedDomains.Perm rule'.permittedDomains
  restrictedDomains_perm : rule.restrictedDomains.Perm rule'.restrictedDomains
  isException_eq : rule.isException = rule'.isException
  body : ∃ network network', rule.body = .network network ∧ rule'.body = .network network' ∧
    network.Reordered network'

section
variable {modifiers modifiers' : List Modifier} (hperm : modifiers.Perm modifiers')
include hperm

theorem toNetworkRule_reordered (hparty : (modifiers.filterMap Modifier.thirdParty?).length ≤ 1)
    (hcase : (modifiers.filterMap Modifier.matchCase?).length ≤ 1) (isException : Bool)
    (pattern : String) (regex : Option String) :
    (Modifier.toNetworkRule isException pattern regex modifiers).Reordered
      (Modifier.toNetworkRule isException pattern regex modifiers') where
  pattern_eq := rfl
  regex_eq := rfl
  permittedTypes_perm := hperm.filterMap _
  restrictedTypes_perm := hperm.filterMap _
  checksParty_eq := hperm.any_eq
  isThirdParty_eq := Modifier.lastSetting_eq_of_perm hperm hparty
  matchesCase_eq := Modifier.lastSetting_eq_of_perm hperm hcase
  isDocumentException_eq := congrArg (isException && ·) hperm.contains_eq
  isReplace_eq := hperm.contains_eq

theorem listedDomains_perm :
    (Modifier.listedDomains modifiers).Perm (Modifier.listedDomains modifiers') :=
  hperm.flatMap_right _

end

/-- **A rule in another order is read if the rule is.** -/
theorem Reorders.ofNetwork_isOk {text text' : List Char} (h : Reorders text text') {rule : Rule}
    (hrule : Rule.ofNetwork text = .ok rule) : ∃ rule', Rule.ofNetwork text' = .ok rule' := by
  obtain ⟨modifiers, hread, -⟩ := Rule.ofNetwork_eq_ok_iff.1 hrule
  obtain ⟨modifiers', hread', -⟩ := mapM_perm h.perm hread
  exact ⟨_, Rule.ofNetwork_eq_ok_iff.2 ⟨modifiers', hread', rfl⟩⟩

/-- **A rule in another order is the same rule** if each property is set once. -/
theorem Reorders.reordered {text text' : List Char} (h : Reorders text text')
    (honce : Modifier.SetsOnce (optionTexts text)) {rule rule' : Rule}
    (hrule : Rule.ofNetwork text = .ok rule) (hrule' : Rule.ofNetwork text' = .ok rule') :
    rule.Reordered rule' := by
  obtain ⟨modifiers, hread, rfl⟩ := Rule.ofNetwork_eq_ok_iff.1 hrule
  obtain ⟨modifiers', hread', rfl⟩ := Rule.ofNetwork_eq_ok_iff.1 hrule'
  obtain ⟨_, hsame, hperm⟩ := mapM_perm h.perm hread
  obtain rfl := Except.ok.inj (hread'.symm.trans hsame)
  obtain ⟨hparty, hcase⟩ := honce.length_le hread
  have hdomains := listedDomains_perm hperm
  refine ⟨(hdomains.filter _).map _, (hdomains.filter _).map _, h.isException_eq,
    _, _, rfl, rfl, ?_⟩
  show NetworkRule.Reordered _ (Modifier.toNetworkRule (splitException text').1
    (String.ofList (patternChars text')) (patternRegex? (patternChars text')) modifiers')
  rw [← h.isException_eq, ← h.pattern_eq]
  exact toNetworkRule_reordered hperm hparty hcase _ _ _

end ContentBlocker
