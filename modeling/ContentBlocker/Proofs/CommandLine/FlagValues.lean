import Mathlib.Data.List.Basic
import Mathlib.Data.List.Induction
import Mathlib.Data.List.TakeWhile
import Mathlib.Data.String.Basic
import ContentBlocker.CommandLine.FileSystem
import ContentBlocker.CommandLine.Flags

/-!
# What arguments say about flags

Of a flag that is given more than once the last value counts (`Flags.lookup_ofItems`).

Most flags take the argument behind them as their value, so an argument may be a flag or the value
of one.  A switch never does, and an argument that begins with two hyphens is never a value.  So for
a switch it is enough to look at each argument by itself: it is set if the last argument that gives
it has no value in it (`Flags.isSet_iff_lastBare`).
-/

set_option autoImplicit false
namespace ContentBlocker.CommandLine

/-! ## The last value counts -/

/-- What an item gives a flag. -/
def Item.valueOf? (name : String) : Item → Option FlagValue
  | .flag given value => if given = name then some value else none
  | .positional _ => none

namespace Flags

section
variable {name : String} (h : name ≠ reservedName)
include h

theorem lookup_insert (flags : Flags) (given : String) (value : FlagValue) :
    (flags.insert given value).lookup name = if given = name then some value
      else flags.lookup name := by
  rw [insert]
  by_cases hgiven : given = name
  · subst hgiven
    rw [if_neg h, if_pos rfl, List.lookup_append, lookup_filter_self]
    simp
  · rw [if_neg hgiven]
    split
    · rfl
    · have hne : (name == given) = false := beq_false_of_ne (Ne.symm hgiven)
      rw [List.lookup_append, lookup_filter_ne flags (Ne.symm hgiven)]
      simp [List.lookup_cons, hne]

/-- **Of the values of a flag the last one counts.** -/
theorem lookup_ofItems (items : List Item) :
    (ofItems items).lookup name = (items.filterMap (Item.valueOf? name)).getLast? := by
  induction items using List.reverseRecOn with
  | nil => rfl
  | append_singleton items item ih =>
    rw [ofItems, List.foldl_append, ← ofItems, List.filterMap_append]
    cases item with
    | positional text =>
      show (ofItems items).lookup name = _
      simp [ih, Item.valueOf?]
    | flag given value =>
      show ((ofItems items).insert given value).lookup name = _
      rw [lookup_insert h, ih]
      by_cases hgiven : given = name
      · simp [hgiven, Item.valueOf?]
      · simp [hgiven, Item.valueOf?]

end

/-- A flag that is required has to have a value, and not the empty one. -/
theorem required_eq_ok_iff {flags : Flags} {name value : String} :
    flags.required name = .ok value ↔ flags.text? name = some value ∧ value ≠ "" := by
  have hfilter : (flags.text? name).filter (!·.isEmpty) = some value ↔
      flags.text? name = some value ∧ value ≠ "" := by
    rw [Option.filter_eq_some_iff, Bool.not_eq_true', ne_eq, ← String.isEmpty_iff,
      Bool.not_eq_true]
  rw [required, ← hfilter]
  cases (flags.text? name).filter (!·.isEmpty) <;> simp

end Flags

/-! ## Switches -/

/-- Whether an argument gives a flag, with or without a value in it. -/
def gives (name argument : String) : Bool :=
  argument == "--" ++ name || ("--" ++ name ++ "=").toList.isPrefixOf argument.toList

/-- The last of the arguments that give a flag gives it without a value. -/
def LastBare (name : String) (arguments : List String) : Prop :=
  (arguments.filter (gives name)).getLast? = some ("--" ++ name)

instance (name : String) (arguments : List String) : Decidable (LastBare name arguments) :=
  inferInstanceAs (Decidable (_ = _))

theorem takeWhile_eq_self_of_not_mem {text : List Char} (h : '=' ∉ text) :
    text.takeWhile (· != '=') = text := by
  refine List.takeWhile_eq_self_iff.2 fun c hc => bne_iff_ne.2 ?_
  rintro rfl
  exact h hc

theorem flagText?_eq_some_iff {argument : String} {text : List Char} :
    flagText? argument = some text ↔ argument.toList = '-' :: '-' :: text := by
  rw [flagText?, List.isPrefixOf?_eq_some_iff_append_eq]
  exact eq_comm

/-- An argument that is no flag gives none. -/
theorem gives_eq_false {argument : String} (h : flagText? argument = none) (name : String) :
    gives name argument = false := by
  refine Bool.eq_false_iff.2 fun hgives => ?_
  have hlead : ['-', '-'] <+: argument.toList := by
    rcases Bool.or_eq_true_iff.1 hgives with heq | hstart
    · rw [beq_iff_eq.1 heq, String.toList_append]
      exact List.prefix_append _ _
    · have hname : ['-', '-'] <+: ("--" ++ name ++ "=").toList := by
        rw [String.toList_append, String.toList_append, List.append_assoc]
        exact List.prefix_append _ _
      exact hname.trans (List.isPrefixOf_iff_prefix.1 hstart)
  obtain ⟨text, htext⟩ := hlead
  rw [flagText?_eq_some_iff.2 htext.symm] at h
  cases h

section
variable {argument : String} {text : List Char} (htext : flagText? argument = some text)
  {name : String}
include htext

theorem eq_flag_iff : argument = "--" ++ name ↔ text = name.toList := by
  rw [← String.toList_inj, flagText?_eq_some_iff.1 htext, String.toList_append]
  simp

/-- A flag is given up to the first equals sign. -/
theorem gives_iff (hname : '=' ∉ name.toList) :
    gives name argument = true ↔ text.takeWhile (· != '=') = name.toList := by
  have hstart : ("--" ++ name ++ "=").toList.isPrefixOf argument.toList = true ↔
      ∃ value, text = name.toList ++ '=' :: value := by
    rw [List.isPrefixOf_iff_prefix, flagText?_eq_some_iff.1 htext, String.toList_append,
      String.toList_append]
    constructor
    · rintro ⟨value, hvalue⟩
      exact ⟨value, by simpa using hvalue.symm⟩
    · rintro ⟨value, rfl⟩
      exact ⟨value, by simp⟩
  rw [gives, Bool.or_eq_true, beq_iff_eq, eq_flag_iff htext, hstart]
  constructor
  · rintro (rfl | ⟨value, rfl⟩)
    · exact takeWhile_eq_self_of_not_mem hname
    · rw [List.takeWhile_append, takeWhile_eq_self_of_not_mem hname]
      simp
  · intro h
    have hsplit := List.takeWhile_append_dropWhile (p := (· != '=')) (l := text)
    rw [h] at hsplit
    cases hrest : text.dropWhile (· != '=') with
    | nil =>
      rw [hrest, List.append_nil] at hsplit
      exact .inl hsplit.symm
    | cons c value =>
      obtain rfl : c = '=' := by
        have hclosed := List.head?_dropWhile_not (· != '=') text
        rw [hrest] at hclosed
        simpa using hclosed
      rw [hrest] at hsplit
      exact .inr ⟨value, hsplit.symm⟩

end

/-- Where there is an equals sign the name stands before it. -/
theorem splitFlag?_eq_some {text : List Char} {given value : String}
    (h : splitFlag? text = some (given, value)) :
    '=' ∈ text ∧ given = String.ofList (text.takeWhile (· != '=')) := by
  rw [splitFlag?] at h
  split at h
  · rename_i hsign
    cases h
    exact ⟨List.contains_iff_mem.1 hsign, rfl⟩
  · cases h

theorem splitFlag?_eq_none {text : List Char} (h : splitFlag? text = none) : '=' ∉ text := by
  rw [splitFlag?] at h
  split at h
  · cases h
  · rename_i hsign
    exact mt List.contains_iff_mem.2 hsign

/-- Items give a flag as often as arguments do, and the same of these times without a value. -/
def Agree (name : String) (items : List Item) (arguments : List String) : Prop :=
  (items.filterMap (Item.valueOf? name)).map (· == .bare) =
    (arguments.filter (gives name)).map (· == "--" ++ name)

namespace Agree

variable {name : String}

theorem append {items items' : List Item} {arguments arguments' : List String}
    (h : Agree name items arguments) (h' : Agree name items' arguments') :
    Agree name (items ++ items') (arguments ++ arguments') := by
  rw [Agree, List.filterMap_append, List.map_append, h, h', List.filter_append, List.map_append]

/-- An argument that is no flag gives none, and neither does an item that is for another flag. -/
theorem of_valueOf?_eq_none {item : Item} {argument : String}
    (hitem : item.valueOf? name = none) (hargument : gives name argument = false) :
    Agree name [item] [argument] := by
  simp [Agree, hitem, hargument]

/-- What a flag gives is seen from its argument alone. -/
theorem flag {argument : String} {text : List Char} {value : FlagValue}
    (hname : '=' ∉ name.toList) (htext : flagText? argument = some text)
    (hvalue : value = .bare ↔ '=' ∉ text) :
    Agree name [.flag (String.ofList (text.takeWhile (· != '='))) value] [argument] := by
  have hgives := gives_iff htext hname
  rw [← String.ofList_eq] at hgives
  by_cases h : String.ofList (text.takeWhile (· != '=')) = name
  · have hbare : (value == .bare) = (argument == "--" ++ name) := by
      rw [Bool.eq_iff_iff, beq_iff_eq, beq_iff_eq, hvalue, eq_flag_iff htext]
      constructor
      · intro hsign
        rw [← String.ofList_eq.1 h, takeWhile_eq_self_of_not_mem hsign]
      · rintro rfl
        exact hname
    simp [Agree, Item.valueOf?, hgives.2 h, h, hbare]
  · exact .of_valueOf?_eq_none (if_neg h) (Bool.eq_false_iff.2 (mt hgives.1 h))

/-- **Each argument gives a switch by itself**, whatever stands behind it. -/
theorem of_items (hname : '=' ∉ name.toList) (hswitch : name ∈ switches) (arguments : List String) :
    Agree name (items arguments) arguments := by
  have hbare {argument : String} {text : List Char} (htext : flagText? argument = some text)
      (hsplit : splitFlag? text = none) :
      Agree name [.flag (String.ofList text) .bare] [argument] := by
    have hsign := splitFlag?_eq_none hsplit
    have hflag := Agree.flag hname htext (iff_of_true rfl hsign)
    rwa [takeWhile_eq_self_of_not_mem hsign] at hflag
  fun_induction CommandLine.items arguments with
  | case1 => rfl
  | case2 argument rest htext ih =>
    exact (of_valueOf?_eq_none rfl (gives_eq_false htext name)).append ih
  | case3 argument rest text htext given value hsplit ih =>
    obtain ⟨hsign, rfl⟩ := splitFlag?_eq_some hsplit
    have hvalue : FlagValue.text value ≠ .bare := fun h => nomatch h
    exact (Agree.flag hname htext (iff_of_false hvalue (not_not_intro hsign))).append ih
  | case4 argument text htext hsplit => exact hbare htext hsplit
  | case5 argument text htext hsplit given next rest _ ih => exact (hbare htext hsplit).append ih
  | case6 argument text htext hsplit given next rest hnext ih =>
    -- The argument behind this flag is its value, but this flag is no switch.
    obtain ⟨hgiven, hvalue⟩ := not_or.1 (mt Bool.or_eq_true_iff.2 hnext)
    have hne : String.ofList text ≠ name := by
      rintro rfl
      exact hgiven (List.contains_iff_mem.2 hswitch)
    have hsign := splitFlag?_eq_none hsplit
    have hargument : gives name argument = false := by
      rw [Bool.eq_false_iff, ne_eq, gives_iff htext hname, takeWhile_eq_self_of_not_mem hsign,
        ← String.ofList_eq]
      exact hne
    have hnone : flagText? next = none := by simpa using hvalue
    have hitem : (Item.flag (String.ofList text) (.text next)).valueOf? name = none := if_neg hne
    have htaken : Agree name [.flag (String.ofList text) (.text next)] [argument, next] := by
      simp [Agree, hitem, hargument, gives_eq_false hnone]
    exact htaken.append ih

end Agree

/-- **A switch is set if the last argument that gives it has no value in it.** -/
theorem Flags.isSet_iff_lastBare {name : String} (hswitch : name ∈ switches)
    (arguments : List String) :
    (ofItems (items arguments)).isSet name = true ↔ LastBare name arguments := by
  have hname : ∀ name ∈ switches, '=' ∉ name.toList ∧ name ≠ reservedName := by decide
  obtain ⟨hsign, hreserved⟩ := hname name hswitch
  have hlast := congrArg List.getLast? (Agree.of_items hsign hswitch arguments)
  rw [List.getLast?_map, List.getLast?_map] at hlast
  have hmap {α : Type} [DecidableEq α] (value : Option α) (a : α) :
      value.map (· == a) = some true ↔ value = some a := by
    cases value <;> simp
  rw [isSet, lookup_ofItems hreserved, beq_iff_eq, ← hmap, hlast, hmap, LastBare]

end ContentBlocker.CommandLine
