import ContentBlocker.Proofs.Conversion.Ordering

/-!
# The order of the output for advanced blocking

In the output for advanced blocking the entries come in the order of the rules that they are of,
exceptions and others alike: `advancedRules` pairs each rule that needs advanced blocking with its
entry, and the output has the entries of these pairs as they come (`advanced_ofRules`).

So an entry that takes back what was done before it stands behind what it takes back only where the
exception stood behind the other rules in the list (`exceptionsLast_iff_of_list`).  A content blocker
does not depend on that, because there the exceptions are put last (`entries_in_order`); a list with
the exception first shows the difference (`exception_before_selector`).
-/

set_option autoImplicit false
namespace ContentBlocker

/-! ## Rules with their entries -/

/-- A rule with its entry, if it needs advanced blocking and has an entry with it. -/
def advancedRule? (rule : Rule) : Option (Rule × Entry) :=
  if rule.isAdvanced then (rule.compile true).toOption.map fun e => (rule, e) else none

/-- The rules of a list that need advanced blocking, with their entries. -/
def advancedRules (rules : List Rule) : List (Rule × Entry) :=
  rules.filterMap advancedRule?

theorem advanced?_judge (rule : Rule) :
    (rule.judge true).advanced? = (advancedRule? rule).map (·.2) := by
  rw [Rule.judge, advancedRule?]
  cases rule.compile true with
  | error rejection =>
    dsimp only
    rw [Except.toOption, Option.map_none, ite_self]
    rfl
  | ok e => cases rule.isAdvanced <;> rfl

/-- **The output for advanced blocking is in the order of the rules.** -/
theorem advanced_ofRules (rules : List Rule) :
    (Sorting.ofRules true rules).advanced = (advancedRules rules).map (·.2) := by
  show (rules.map fun rule => (rule.text, rule.judge true)).filterMap (·.2.advanced?) = _
  rw [advancedRules, List.map_filterMap, List.filterMap_map]
  exact congrArg (List.filterMap · rules) (funext advanced?_judge)

/-! ## What the entries do -/

/-- The types of actions that do something and need advanced blocking. -/
def ActionType.advanced : List ActionType :=
  [.css, .script, .scriptlet]

/-- The action of a rule that needs advanced blocking is one of advanced blocking, unless the rule
is an exception. -/
theorem Rule.type_of_action {rule : Rule} (hadvanced : rule.isAdvanced = true) {a : Action}
    (h : rule.action true = .ok a) : a.type ∈ ActionType.advanced ↔ rule.isException = false := by
  rw [isAdvanced] at hadvanced
  rw [action] at h
  cases hbody : rule.body with
  | network network =>
    rw [hbody] at hadvanced
    cases hadvanced
  | hide extended selector =>
    rw [hbody] at h hadvanced
    obtain rfl : extended = true := hadvanced
    dsimp only at h
    rw [hideAction] at h
    split at h
    · obtain rfl := Except.ok.inj h
      cases rule.isException <;> simp [ActionType.advanced]
    · cases h
  | script source =>
    rw [hbody] at h
    obtain rfl := Except.ok.inj h
    cases rule.isException <;> simp [ActionType.advanced]
  | scriptlet name parameter =>
    rw [hbody] at h
    obtain rfl := Except.ok.inj h
    cases rule.isException <;> simp [ActionType.advanced]

/-- Of the rules that need advanced blocking, the exceptions take back what was done before them, and
the others do something. -/
theorem type_of_mem_advancedRules {rules : List Rule} {p : Rule × Entry}
    (h : p ∈ advancedRules rules) :
    (p.2.action.type = .ignorePrevious ↔ p.1.isException = true) ∧
      (p.2.action.type ∈ ActionType.advanced ↔ p.1.isException = false) := by
  obtain ⟨rule, -, hrule⟩ := List.mem_filterMap.1 h
  rw [advancedRule?] at hrule
  split at hrule
  · rename_i hadvanced
    obtain ⟨e, he, rfl⟩ := Option.map_eq_some_iff.1 hrule
    obtain ⟨-, -, -, haction, -⟩ := Rule.compile_eq_ok_iff.1 (toOption_eq_some_iff.1 he)
    exact ⟨Rule.ignorePrevious_iff_of_action haction, Rule.type_of_action hadvanced haction⟩
  · cases hrule

/-! ## Exceptions among the entries -/

/-- Every entry that takes back what was done before it stands behind every entry of advanced blocking
that does something. -/
def ExceptionsLast (es : List Entry) : Prop :=
  ∀ (i j : Nat) (_ : i < es.length) (_ : j < es.length),
    es[i].action.type = .ignorePrevious → es[j].action.type ∈ ActionType.advanced → j < i

/-- Entries have the exceptions last exactly if their rules have. -/
theorem exceptionsLast_advancedRules_iff (rules : List Rule) :
    ExceptionsLast ((advancedRules rules).map (·.2)) ↔
      (advancedRules rules).Pairwise fun p q => p.1.isException = true → q.1.isException = true := by
  have htype (i : Nat) (hi : i < (advancedRules rules).length) :=
    type_of_mem_advancedRules (List.getElem_mem hi)
  rw [ExceptionsLast, List.pairwise_iff_getElem]
  simp only [List.length_map, List.getElem_map]
  constructor
  · intro h i j hi hj hij hexception
    rw [← Bool.not_eq_false]
    intro hnone
    have hji := h i j hi hj ((htype i hi).1.2 hexception) ((htype j hj).2.2 hnone)
    omega
  · intro h i j hi hj hignore hadvanced
    have hexception := (htype i hi).1.1 hignore
    have hnone := (htype j hj).2.1 hadvanced
    rcases Nat.lt_trichotomy i j with hij | rfl | hji
    · rw [h i j hi hj hij hexception] at hnone
      cases hnone
    · rw [hexception] at hnone
      cases hnone
    · exact hji

/-! ## The output of a conversion -/

/-- **Exceptions come after what they take back only where they do so in the list.**  The output for
advanced blocking has the entries of the rules that need it, each that compiles, in the order of the
list.  Those of exceptions are the ones that take back what was done before them, and all others do
something, so the first stand behind the second exactly if no exception stands before another rule
among these rules. -/
theorem exceptionsLast_iff_of_list {list : FilterList} {options : ConversionOptions}
    {result : ConversionResult} (h : convert list options = .ok result)
    (hadvanced : options.advancedBlocking = true) :
    let compiled := advancedRules list.rules
    result.advancedBlocking = some (serializeEntries (compiled.map (·.2))) ∧
      result.advancedBlockingConvertedCount = compiled.length ∧
      (∀ p ∈ compiled, (p.2.action.type = .ignorePrevious ↔ p.1.isException = true) ∧
        (p.2.action.type ∈ ActionType.advanced ↔ p.1.isException = false)) ∧
      (ExceptionsLast (compiled.map (·.2)) ↔
        compiled.Pairwise fun p q => p.1.isException = true → q.1.isException = true) := by
  obtain ⟨limit, -, rfl, -⟩ := convert_eq_ok_iff.1 h
  intro compiled
  have hentries : (Sorting.ofRules true list.rules).advanced = compiled.map (·.2) :=
    advanced_ofRules list.rules
  rw [hadvanced]
  refine ⟨?_, ?_, fun p hp => type_of_mem_advancedRules hp,
    exceptionsLast_advancedRules_iff list.rules⟩
  · show some (serializeEntries (Sorting.ofRules true list.rules).advanced) = _
    rw [hentries]
  · show (Sorting.ofRules true list.rules).advanced.length = _
    rw [hentries, List.length_map]

/-- A script and an extended selector, and then an exception from the selector. -/
def exceptionBehind : List String :=
  ["example.org#%#alert(1)", "example.org#?#.ad", "example.org#@?#.ad"]

theorem convertLines_advanced (lines : List String) :
    convertLines lines { advancedBlocking := true } =
      .ok (.ofList (.ofText (Text.unlines lines)) maxEntries true) :=
  convert_of_lenient toNat?_maxEntries _ rfl

theorem exceptionsLast_iff_of_list_of_exceptionBehind :
    ∃ result, convertLines exceptionBehind { advancedBlocking := true } = .ok result ∧
      result.advancedBlockingConvertedCount = 3 ∧
      ∃ es, result.advancedBlocking = some (serializeEntries es) ∧ ExceptionsLast es := by
  have hresult := convertLines_advanced exceptionBehind
  have hlist : (advancedRules (FilterList.ofText (Text.unlines exceptionBehind)).rules).map
      (·.1.isException) = [false, false, true] := by decide +kernel
  have hpairwise : (advancedRules (FilterList.ofText (Text.unlines exceptionBehind)).rules).Pairwise
      fun p q => p.1.isException = true → q.1.isException = true := by
    rw [← List.pairwise_map (R := fun x y : Bool => x = true → y = true), hlist]
    decide
  obtain ⟨htext, hcount, -, hlast⟩ := exceptionsLast_iff_of_list hresult rfl
  refine ⟨_, hresult, hcount.trans ?_, _, htext, hlast.2 hpairwise⟩
  rw [← List.length_map (f := fun p : Rule × Entry => p.1.isException), hlist]
  rfl

/-- **An exception can come before what it should take back**: where it stands before the selector in
the list, it does so in the output. -/
theorem exception_before_selector : ¬ ∀ lines result,
    convertLines lines { advancedBlocking := true } = .ok result →
      ∀ es, result.advancedBlocking = some (serializeEntries es) → ExceptionsLast es := by
  intro hall
  have hresult := convertLines_advanced ["example.org#@?#.ad", "example.org#?#.ad"]
  have hadvanced : (Sorting.ofRules true (FilterList.ofText
      (Text.unlines ["example.org#@?#.ad", "example.org#?#.ad"])).rules).advanced.map
        (·.action.type) = [.ignorePrevious, .css] := by decide +kernel
  have hlast := hall _ _ hresult _ rfl
  obtain ⟨e, es, heq, hfirst, hrest⟩ := List.map_eq_cons_iff.1 hadvanced
  obtain ⟨d, ds, rfl, hsecond, -⟩ := List.map_eq_cons_iff.1 hrest
  rw [heq] at hlast
  have hcss : d.action.type ∈ ActionType.advanced := by rw [hsecond]; decide
  exact absurd (hlast 0 1 (by simp) (by simp) hfirst hcss) (by decide)

end ContentBlocker
