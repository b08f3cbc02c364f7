import ContentBlocker.Entry.Compile

/-!
# Where the entry of a rule goes

`Rule.judge` says what becomes of a rule: its entry goes to the content blocker, or to the output
for advanced blocking, or it is rejected.  In the content blocker the entries of exceptions come
after the others, because they take back what stands before them, and those that take back
everything on a page come last.  A `Sorting` is what becomes of all rules.
-/

set_option autoImplicit false
namespace ContentBlocker

/-- The three parts of a content blocker, in their order. -/
inductive EntryGroup where
  | blocking
  | exception
  | documentException
  deriving DecidableEq

/-- What becomes of a rule. -/
inductive Verdict where
  | entry (group : EntryGroup) (entry : Entry)
  | advanced (entry : Entry)
  | rejected (rejection : Rejection)
  deriving DecidableEq

namespace Rule

/-- The part of a content blocker where the entry of a rule goes. -/
def group (rule : Rule) : EntryGroup :=
  if rule.isException then
    match rule.body with
    | .network network => if network.isDocumentException then .documentException else .exception
    | _ => .exception
  else
    .blocking

/-- What becomes of a rule. -/
def judge (advancedBlocking : Bool) (rule : Rule) : Verdict :=
  match rule.compile advancedBlocking with
  | .error rejection => .rejected rejection
  | .ok entry =>
    if rule.isAdvanced then
      if advancedBlocking then .advanced entry
      else .rejected (.advancedBlockingDisabled .extendedCss)
    else
      .entry rule.group entry

end Rule

/-- A rule without an entry. -/
structure RejectedRule where
  text : String
  rejection : Rejection
  deriving DecidableEq

namespace Verdict

/-- The entry that goes to a part of the content blocker. -/
def entryOf? (group : EntryGroup) : Verdict → Option Entry
  | .entry g e => if g = group then some e else none
  | _ => none

/-- The entry that goes to the output for advanced blocking. -/
def advanced? : Verdict → Option Entry
  | .advanced e => some e
  | _ => none

/-- The rejection. -/
def rejection? : Verdict → Option Rejection
  | .rejected r => some r
  | _ => none

end Verdict

/-- What becomes of the rules of a list. -/
structure Sorting where
  /-- The entries of the content blocker, in its order. -/
  entries : List Entry
  advanced : List Entry
  rejected : List RejectedRule
  deriving DecidableEq

/-- Sorts verdicts by what they say.  Within each part their order is kept. -/
def Sorting.ofVerdicts (judged : List (String × Verdict)) : Sorting where
  entries :=
    judged.filterMap (·.2.entryOf? .blocking) ++ judged.filterMap (·.2.entryOf? .exception) ++
      judged.filterMap (·.2.entryOf? .documentException)
  advanced := judged.filterMap (·.2.advanced?)
  rejected := judged.filterMap fun (text, verdict) => verdict.rejection?.map (⟨text, ·⟩)

/-- Sorts rules by what becomes of them. -/
def Sorting.ofRules (advancedBlocking : Bool) (rules : List Rule) : Sorting :=
  .ofVerdicts (rules.map fun rule => (rule.text, rule.judge advancedBlocking))

private theorem Sorting.length_ofVerdicts (judged : List (String × Verdict)) :
    (ofVerdicts judged).entries.length + (ofVerdicts judged).advanced.length +
      (ofVerdicts judged).rejected.length = judged.length := by
  induction judged with
  | nil => rfl
  | cons j judged ih =>
    obtain ⟨text, verdict⟩ := j
    simp only [ofVerdicts, List.length_append] at ih
    cases verdict with
    | entry group e =>
      cases group <;>
        simp [ofVerdicts, Verdict.entryOf?, Verdict.advanced?, Verdict.rejection?] <;>
        simp only [Verdict.entryOf?, Verdict.advanced?, Verdict.rejection?] at ih <;> omega
    | advanced e =>
      simp [ofVerdicts, Verdict.entryOf?, Verdict.advanced?, Verdict.rejection?]
      simp only [Verdict.entryOf?, Verdict.advanced?, Verdict.rejection?] at ih
      omega
    | rejected r =>
      simp [ofVerdicts, Verdict.entryOf?, Verdict.advanced?, Verdict.rejection?]
      simp only [Verdict.entryOf?, Verdict.advanced?, Verdict.rejection?] at ih
      omega

/-- **No rule is lost**: each has an entry in one of the outputs or is rejected. -/
theorem Sorting.length_ofRules (advancedBlocking : Bool) (rules : List Rule) :
    (ofRules advancedBlocking rules).entries.length +
      (ofRules advancedBlocking rules).advanced.length +
      (ofRules advancedBlocking rules).rejected.length = rules.length := by
  rw [ofRules, length_ofVerdicts, List.length_map]

end ContentBlocker
