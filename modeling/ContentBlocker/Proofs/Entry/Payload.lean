import ContentBlocker.Proofs.Entry.Compile
import ContentBlocker.Proofs.Text.Lowercase

/-!
# What the action of a rule carries along

An action has up to five properties besides its type, its payloads, and the type of a rule says
which of them the entry of the rule has (`Rule.payloads`): no others are there, and none of these is
missing (`Rule.wellFormed_of_action`).

A selector is lower-cased before it is searched for what loads something.  Lower-casing looks at
what stands around a letter, but ASCII within a text becomes lower case on its own
(`Text.infix_lowerChars`), so what loads something is found in whatever letter case it stands
(`not_loadsSomething_of_isSafeSelector`).
-/

set_option autoImplicit false
namespace ContentBlocker

/-! ## Selectors that load something -/

/-- What loads something stands somewhere in the text, in whatever letter case. -/
def LoadsSomething (text : String) : Prop :=
  ∃ token, token <:+: text.toList ∧ token.map Char.toLower = "url(".toList

theorem not_loadsSomething_of_isSafeSelector {selector : String}
    (h : isSafeSelector selector = true) : ¬ LoadsSomething selector := by
  rintro ⟨token, hpart, htoken⟩
  replace htoken : token.map Char.toLower = loadingToken := htoken
  have hloading : loadingToken.all (fun d => d.toNat < 0x80) = true := rfl
  have hascii : ∀ c ∈ token, c.toNat < 0x80 := by
    intro c hc
    have hlower : c.toLower ∈ loadingToken := htoken ▸ List.mem_map_of_mem hc
    exact Text.toNat_lt_of_toLower (of_decide_eq_true (List.all_eq_true.1 hloading _ hlower))
  have hocc := Text.infix_lowerChars hpart hascii
  rw [htoken] at hocc
  rw [isSafeSelector, Text.occursIn_iff.2 hocc] at h
  cases h

/-! ## Payloads -/

/-- The properties that an action can have besides its type. -/
inductive Payload where
  | selector
  | css
  | script
  | scriptlet
  | scriptletParam
  deriving DecidableEq

/-- A payload of an action, if it is there. -/
def Action.payload? (action : Action) : Payload → Option String
  | .selector => action.selector
  | .css => action.css
  | .script => action.script
  | .scriptlet => action.scriptlet
  | .scriptletParam => action.scriptletParam

/-- The payloads that the entry of a rule has.  Scripts and scriptlets are named even where they are
taken back. -/
def Rule.payloads (rule : Rule) : List Payload :=
  match rule.type with
  | .network => []
  | .hide => if rule.isException then [] else [.selector]
  | .extendedHide => if rule.isException then [] else [.css]
  | .script => [.script]
  | .scriptlet => [.scriptlet, .scriptletParam]

/-- The action of an entry is as the type of the rule says. -/
structure Action.WellFormed (action : Action) (rule : Rule) : Prop where
  payload : ∀ p, (action.payload? p).isSome = true ↔ p ∈ rule.payloads
  not_loadsSomething : ∀ text, action.selector = some text ∨ action.css = some text →
    ¬ LoadsSomething text

namespace Rule

variable {rule : Rule} {advanced : Bool} {action : Action}

theorem payloads_of_hide {extended : Bool} {selector : String}
    (hbody : rule.body = .hide extended selector) : rule.payloads =
      if rule.isException then [] else if extended then [.css] else [.selector] := by
  rw [payloads, type, hbody]
  cases extended <;> rfl

theorem wellFormed_of_hideAction {extended : Bool} {selector : String}
    (hbody : rule.body = .hide extended selector)
    (h : hideAction rule.isException extended selector = .ok action) : action.WellFormed rule := by
  rw [hideAction] at h
  split at h
  · rename_i hsafe
    have hselector := not_loadsSomething_of_isSafeSelector hsafe
    obtain rfl := Except.ok.inj h
    constructor
    · intro p
      rw [payloads_of_hide hbody]
      split
      · cases p <;> simp [Action.payload?]
      · split
        · cases p <;> simp [Action.payload?]
        · cases p <;> simp [Action.payload?]
    · intro text htext
      -- Whichever of the two payloads there is, its text is the selector.
      suffices text = selector by rwa [this]
      split at htext
      · rcases htext with htext | htext <;> cases htext
      · split at htext
        · rcases htext with htext | htext <;> cases htext
          rfl
        · rcases htext with htext | htext <;> cases htext
          rfl
  · cases h

/-- **The action of a rule is well formed.** -/
theorem wellFormed_of_action (h : rule.action advanced = .ok action) : action.WellFormed rule := by
  rw [Rule.action] at h
  split at h
  · rename_i network hbody
    obtain rfl := Except.ok.inj h
    refine ⟨fun p => ?_, ?_⟩
    · have hnone : rule.payloads = [] := by simp [payloads, type, hbody]
      rw [hnone]
      cases p <;> simp [Action.payload?]
    · rintro text (htext | htext) <;> cases htext
  · rename_i hbody
    exact wellFormed_of_hideAction hbody h
  · rename_i source hbody
    split at h
    · obtain rfl := Except.ok.inj h
      refine ⟨fun p => ?_, ?_⟩
      · have hscript : rule.payloads = [.script] := by simp [payloads, type, hbody]
        rw [hscript]
        cases p <;> simp [Action.payload?]
      · rintro text (htext | htext) <;> cases htext
    · cases h
  · rename_i name parameter hbody
    split at h
    · obtain rfl := Except.ok.inj h
      refine ⟨fun p => ?_, ?_⟩
      · have hscriptlet : rule.payloads = [.scriptlet, .scriptletParam] := by
          simp [payloads, type, hbody]
        rw [hscriptlet]
        cases p <;> simp [Action.payload?]
      · rintro text (htext | htext) <;> cases htext
    · cases h

end Rule
end ContentBlocker
