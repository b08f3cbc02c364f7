import ContentBlocker.Entry.Basic
import ContentBlocker.Entry.Rejection
import ContentBlocker.Rule.Basic
import ContentBlocker.Json.Basic

/-!
# What a conversion counts

A conversion reports how many rules of each type it has read and how many of them are exceptions,
how many entries of each type of actions it has written, and how often each reason for a rejection
has come up.  A tally lists all kinds, those that have not come up with a zero, and its counts add
up to the number of things counted (`total_tally`).
-/

set_option autoImplicit false
namespace ContentBlocker

/-- How often each of the kinds comes up. -/
def tally {α : Type} [DecidableEq α] (kinds items : List α) : List (α × Nat) :=
  kinds.map fun kind => (kind, items.count kind)

/-- Counts by the kind of rules, entries and rejections. -/
structure Statistics where
  rules : List (RuleType × Nat)
  exceptions : Nat
  actions : List (ActionType × Nat)
  rejections : List (RejectReason × Nat)
  deriving DecidableEq

namespace Statistics

/-- The counts of rules, of entries and of rejections. -/
def of (rules : List Rule) (entries : List Entry) (rejections : List RejectReason) :
    Statistics where
  rules := tally RuleType.all (rules.map (·.type))
  exceptions := rules.countP (·.isException)
  actions := tally ActionType.all (entries.map (·.action.type))
  rejections := tally RejectReason.all rejections

/-- The members of a tally, by name. -/
def tallyMembers {α : Type} (name : α → String) (counts : List (α × Nat)) :
    List (String × Json) :=
  counts.map fun (kind, n) => (name kind, .ofNat n)

/-- The counts of rules as an object. -/
def rulesToJson (s : Statistics) : Json :=
  .obj (tallyMembers RuleType.name s.rules ++ [("allowlist", .ofNat s.exceptions)])

/-- The counts of entries as an object. -/
def actionsToJson (s : Statistics) : Json :=
  .obj (tallyMembers ActionType.name s.actions)

/-- The counts of rejections as an object. -/
def rejectionsToJson (s : Statistics) : Json :=
  .obj (tallyMembers RejectReason.name s.rejections)

/-- All counts as an object. -/
def toJson (s : Statistics) : Json :=
  .obj [("rules", s.rulesToJson), ("actions", s.actionsToJson),
    ("rejections", s.rejectionsToJson)]

end Statistics

/-! ## Tallies -/

/-- The counts of a tally, added up. -/
def total {α : Type} (counts : List (α × Nat)) : Nat :=
  counts.foldr (fun c n => c.2 + n) 0

/-- One more item makes the total greater by one if it is of one of the kinds. -/
theorem total_tally_cons {α : Type} [DecidableEq α] {kinds : List α} (hnodup : kinds.Nodup)
    (x : α) (items : List α) :
    total (tally kinds (x :: items)) =
      total (tally kinds items) + if x ∈ kinds then 1 else 0 := by
  induction kinds with
  | nil => rfl
  | cons k ks ih =>
    rw [List.nodup_cons] at hnodup
    have ih := ih hnodup.2
    simp only [total, tally] at ih
    by_cases h : x = k
    · subst h
      simp only [total, tally, List.map_cons, List.foldr_cons, ih, List.count_cons_self, hnodup.1,
        List.mem_cons_self, if_true, if_false]
      omega
    · simp only [total, tally, List.map_cons, List.foldr_cons, ih, List.count_cons_of_ne h,
        List.mem_cons, h, false_or]
      omega

/-- **The counts add up**: where no kind is missing or listed twice, to the number of items. -/
theorem total_tally {α : Type} [DecidableEq α] {kinds items : List α} (hnodup : kinds.Nodup)
    (hall : ∀ x ∈ items, x ∈ kinds) : total (tally kinds items) = items.length := by
  induction items with
  | nil => induction kinds <;> simp_all [total, tally]
  | cons x xs ih =>
    rw [total_tally_cons hnodup, ih fun y hy => hall y (List.mem_cons_of_mem _ hy),
      if_pos (hall x List.mem_cons_self), List.length_cons]

end ContentBlocker
