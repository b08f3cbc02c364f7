import ContentBlocker.Proofs.Conversion.Accounting
import ContentBlocker.Proofs.Entry.Compile

/-!
# The order of a content blocker

An entry that takes back what was done before it has to stand behind what it takes back.  So a
content blocker has the entries of exceptions behind all others, and those that take back everything
on a page come last.

The entries are followed to the rules that they come from: `compiledRules` pairs each rule that
belongs to the content blocker with its entry, `inOrder` puts the pairs into the order of the content
blocker, and the entries of a conversion are those of the pairs, up to the limit
(`entries_in_order`).
-/

set_option autoImplicit false
namespace ContentBlocker

/-! ## Rules with their entries -/

/-- Whether a rule is an exception that takes back everything on a page. -/
def Rule.isDocumentException (rule : Rule) : Bool :=
  match rule.body with
  | .network network => network.isDocumentException
  | _ => false

/-- A rule with its entry, if it is one that blocks or hides by a style sheet and has an entry. -/
def compiledRule? (advanced : Bool) (rule : Rule) : Option (Rule × Entry) :=
  if rule.type = .network ∨ rule.type = .hide then
    (rule.compile advanced).toOption.map fun e => (rule, e)
  else
    none

/-- The rules of a list that belong to a content blocker, with their entries. -/
def compiledRules (advanced : Bool) (rules : List Rule) : List (Rule × Entry) :=
  rules.filterMap (compiledRule? advanced)

/-- First what is no exception, then the exceptions that do not take back everything on a page, and
then those that do.  Within each part the order is kept. -/
def inOrder (compiled : List (Rule × Entry)) : List (Rule × Entry) :=
  compiled.filter (fun p => !p.1.isException) ++
    compiled.filter (fun p => p.1.isException && !p.1.isDocumentException) ++
    compiled.filter (fun p => p.1.isException && p.1.isDocumentException)

/-- A list that is cut into three parts has lost nothing, and nothing comes up twice. -/
theorem perm_filter_parts {α : Type} (p q : α → Bool) (xs : List α) :
    (xs.filter (fun x => !p x) ++ xs.filter (fun x => p x && !q x) ++
      xs.filter (fun x => p x && q x)).Perm xs := by
  have hparts : (xs.filter (fun x => p x && !q x) ++ xs.filter (fun x => p x && q x)).Perm
      (xs.filter p) := by
    have h := List.filter_append_perm (fun x => !q x) (xs.filter p)
    rw [List.filter_filter, List.filter_filter] at h
    simpa [Bool.and_comm] using h
  have hall := List.filter_append_perm (fun x => !p x) xs
  rw [List.append_assoc]
  refine (hparts.append_left _).trans ?_
  simpa using hall

/-- Nothing is lost and nothing comes up twice when the parts are put one behind the other. -/
theorem perm_inOrder (compiled : List (Rule × Entry)) : (inOrder compiled).Perm compiled :=
  perm_filter_parts (fun p : Rule × Entry => p.1.isException) (·.1.isDocumentException) compiled

/-! ## The parts of a content blocker -/

theorem Rule.isAdvanced_eq_false_iff {rule : Rule} :
    rule.isAdvanced = false ↔ rule.type = .network ∨ rule.type = .hide := by
  rw [isAdvanced, type]
  cases rule.body with
  | network network => simp
  | hide extended selector => cases extended <;> simp
  | script source => simp
  | scriptlet name parameter => simp

/-- The entry of a rule goes to the part of its group. -/
theorem entryOf?_judge (advanced : Bool) (rule : Rule) (group : EntryGroup) :
    (rule.judge advanced).entryOf? group =
      ((compiledRule? advanced rule).filter fun p => decide (p.1.group = group)).map (·.2) := by
  rw [Rule.judge, compiledRule?]
  cases rule.compile advanced with
  | error rejection =>
    dsimp only
    rw [Except.toOption, Option.map_none, ite_self]
    rfl
  | ok e =>
    dsimp only
    cases hadvanced : rule.isAdvanced with
    | true =>
      have htype : ¬ (rule.type = .network ∨ rule.type = .hide) := by
        rw [← Rule.isAdvanced_eq_false_iff, hadvanced]
        exact Bool.noConfusion
      rw [if_neg htype, if_pos rfl]
      cases advanced <;> rfl
    | false =>
      rw [if_pos (Rule.isAdvanced_eq_false_iff.1 hadvanced), if_neg Bool.false_ne_true,
        Verdict.entryOf?, Except.toOption, Option.map_some, Option.filter_some]
      by_cases hgroup : rule.group = group
      · rw [if_pos hgroup, if_pos (decide_eq_true hgroup), Option.map_some]
      · rw [if_neg hgroup, if_neg (by simpa using hgroup), Option.map_none]

theorem filterMap_entryOf? (advanced : Bool) (rules : List Rule) (group : EntryGroup) :
    (rules.map fun rule => (rule.text, rule.judge advanced)).filterMap (·.2.entryOf? group) =
      ((compiledRules advanced rules).filter fun p => decide (p.1.group = group)).map (·.2) := by
  rw [compiledRules, List.filter_filterMap, List.map_filterMap, List.filterMap_map]
  exact congrArg (List.filterMap · rules) (funext fun rule => entryOf?_judge advanced rule group)

theorem Rule.decide_group (rule : Rule) :
    decide (rule.group = .blocking) = !rule.isException ∧
      decide (rule.group = .exception) = (rule.isException && !rule.isDocumentException) ∧
      decide (rule.group = .documentException) =
        (rule.isException && rule.isDocumentException) := by
  rw [group, isDocumentException]
  cases rule.isException with
  | false => simp
  | true =>
    cases rule.body with
    | network network => cases h : network.isDocumentException <;> simp [h]
    | hide _ _ => simp
    | script _ => simp
    | scriptlet _ _ => simp

/-- **The entries of a content blocker are those of its rules, in its order.** -/
theorem entries_ofRules (advanced : Bool) (rules : List Rule) :
    (Sorting.ofRules advanced rules).entries = (inOrder (compiledRules advanced rules)).map (·.2) := by
  have hgroup (rule : Rule) := rule.decide_group
  show _ ++ _ ++ _ = _
  rw [filterMap_entryOf?, filterMap_entryOf?, filterMap_entryOf?, inOrder, List.map_append,
    List.map_append]
  simp only [hgroup]

/-! ## Exceptions -/

theorem compiledRule?_eq_some_iff {advanced : Bool} {rule : Rule} {p : Rule × Entry} :
    compiledRule? advanced rule = some p ↔
      (rule.type = .network ∨ rule.type = .hide) ∧ rule.compile advanced = .ok p.2 ∧ p.1 = rule := by
  rw [compiledRule?, Option.ite_none_right_eq_some, Option.map_eq_some_iff]
  refine and_congr_right fun _ => ?_
  simp only [toOption_eq_some_iff]
  constructor
  · rintro ⟨e, he, rfl⟩
    exact ⟨he, rfl⟩
  · rintro ⟨he, hrule⟩
    exact ⟨p.2, he, Prod.ext hrule.symm rfl⟩

theorem compile_of_mem_compiledRules {advanced : Bool} {rules : List Rule} {p : Rule × Entry}
    (h : p ∈ compiledRules advanced rules) : p.1 ∈ rules ∧ p.1.compile advanced = .ok p.2 := by
  obtain ⟨rule, hmem, hrule⟩ := List.mem_filterMap.1 h
  obtain ⟨-, hcompile, rfl⟩ := compiledRule?_eq_some_iff.1 hrule
  exact ⟨hmem, hcompile⟩

/-- The entry of a rule takes back what was done before it exactly if the rule is an exception. -/
theorem ignorePrevious_iff_of_mem {advanced : Bool} {rules : List Rule} {p : Rule × Entry}
    (h : p ∈ compiledRules advanced rules) :
    p.2.action.type = .ignorePrevious ↔ p.1.isException = true := by
  obtain ⟨-, -, -, haction, -⟩ := Rule.compile_eq_ok_iff.1 (compile_of_mem_compiledRules h).2
  exact Rule.ignorePrevious_iff_of_action haction

/-- Behind an exception there are exceptions only. -/
theorem pairwise_inOrder (compiled : List (Rule × Entry)) :
    (inOrder compiled).Pairwise fun p q => p.1.isException = true → q.1.isException = true := by
  have hexceptions : ∀ q ∈ compiled.filter (fun p => p.1.isException && !p.1.isDocumentException) ++
      compiled.filter (fun p => p.1.isException && p.1.isDocumentException),
      q.1.isException = true := by
    intro q hq
    rcases List.mem_append.1 hq with hq | hq
    · exact (Bool.and_eq_true_iff.1 (List.mem_filter.1 hq).2).1
    · exact (Bool.and_eq_true_iff.1 (List.mem_filter.1 hq).2).1
  rw [inOrder, List.append_assoc, List.pairwise_append]
  refine ⟨?_, ?_, fun _ _ q hq _ => hexceptions q hq⟩
  · refine List.pairwise_of_forall_mem_list fun p hp _ _ hexception => ?_
    have hnone := (List.mem_filter.1 hp).2
    rw [hexception] at hnone
    cases hnone
  · exact List.pairwise_of_forall_mem_list fun _ _ q hq _ => hexceptions q hq

/-! ## The entries of a conversion -/

/-- **Exceptions come after what they take back.**  The entries of a content blocker are those of
the rules that belong to it, up to the limit: first of the rules that are no exceptions, then of the
exceptions that do not take back everything on a page, and then of those that do, each in the order
of the rules.  Those of exceptions are the ones that take back what was done before them, so behind
such an entry there are only others of that kind. -/
theorem entries_in_order {list : FilterList} {options : ConversionOptions}
    {result : ConversionResult} (h : convert list options = .ok result) :
    ∃ limit, options.limit.toNat? = some limit ∧
      let compiled := compiledRules options.advancedBlocking list.rules
      let kept := (inOrder compiled).take limit
      (inOrder compiled).Perm compiled ∧
      result.totalConvertedCount = compiled.length ∧ result.convertedCount = kept.length ∧
      result.converted =
        (if kept = [] then placeholder else serializeEntries (kept.map (·.2))) ∧
      (∀ p ∈ kept, p.2.action.type = .ignorePrevious ↔ p.1.isException = true) ∧
      ∀ (i j : Nat) (_ : i < j) (_ : j < kept.length),
        kept[i].2.action.type = .ignorePrevious → kept[j].2.action.type = .ignorePrevious := by
  obtain ⟨limit, hlimit, rfl, -⟩ := convert_eq_ok_iff.1 h
  refine ⟨limit, hlimit, ?_⟩
  intro compiled kept
  have hentries : (Sorting.ofRules options.advancedBlocking list.rules).entries =
      (inOrder compiled).map (·.2) := entries_ofRules _ _
  have hperm : (inOrder compiled).Perm compiled := perm_inOrder compiled
  have hkept : (Sorting.ofRules options.advancedBlocking list.rules).entries.take limit =
      kept.map (·.2) := by
    rw [hentries, ← List.map_take]
  have haction : ∀ p ∈ kept, p.2.action.type = .ignorePrevious ↔ p.1.isException = true :=
    fun p hp => ignorePrevious_iff_of_mem (hperm.mem_iff.1 (List.mem_of_mem_take hp))
  refine ⟨hperm, ?_, ?_, ?_, haction, ?_⟩
  · show (Sorting.ofRules options.advancedBlocking list.rules).entries.length = _
    rw [hentries, List.length_map, hperm.length_eq]
  · show ((Sorting.ofRules options.advancedBlocking list.rules).entries.take limit).length = _
    rw [hkept, List.length_map]
  · show (if ((Sorting.ofRules options.advancedBlocking list.rules).entries.take limit).isEmpty then
      placeholder else serializeEntries
        ((Sorting.ofRules options.advancedBlocking list.rules).entries.take limit)) = _
    rw [hkept]
    cases kept <;> rfl
  · intro i j hij hj hi
    have hpairwise := List.pairwise_iff_getElem.1 ((pairwise_inOrder compiled).take (i := limit))
    rw [haction _ (List.getElem_mem _)] at hi ⊢
    exact hpairwise i j _ hj hij hi

/-- A rule that takes back everything, before one that hides. -/
def exceptionBeforeRule : FilterList where
  rules := [
    { text := "@@||*$document", permittedDomains := [], restrictedDomains := [],
      isException := true, body := .network { pattern := "||*", isDocumentException := true } },
    { text := "##.ad", permittedDomains := [], restrictedDomains := [],
      isException := false, body := .hide false ".ad" }]
  issues := []

theorem entries_in_order_of_exceptionBeforeRule :
    (inOrder (compiledRules false exceptionBeforeRule.rules)).map (·.1.text) =
        ["##.ad", "@@||*$document"] ∧
      ∃ result, convert exceptionBeforeRule {} = .ok result ∧ result.totalConvertedCount = 2 := by
  have hlimit : (Number.ofNat maxEntries).toNat? = some maxEntries := by decide
  have hresult : convert exceptionBeforeRule {} =
      .ok (.ofList exceptionBeforeRule maxEntries false) :=
    convert_eq_ok_iff.2 ⟨maxEntries, hlimit, rfl, fun h => (nomatch h)⟩
  obtain ⟨limit, -, -, htotal, -⟩ := entries_in_order hresult
  exact ⟨rfl, _, hresult, htotal.trans rfl⟩

end ContentBlocker
