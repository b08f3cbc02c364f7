import Mathlib.Data.List.Basic
import ContentBlocker.Proofs.CommandLine.FlagValues

/-!
# The two spellings of a flag with a value

The value of a flag stands behind an equals sign, or it is the next argument.  For a flag that is no
switch, and a value that does not look like a flag, it does not matter which
(`two_spellings_of_flag`).

Reading goes from the left and takes some arguments in pairs, so what an argument stands for depends
on those before it.  But no flag is ever the value of another one.  So arguments can be cut before
each flag, and the parts be read on their own (`items_append_flag`).
-/

set_option autoImplicit false
namespace ContentBlocker.CommandLine

/-! ## Reading one argument -/

section
variable {argument : String} {text : List Char}

theorem items_positional (h : flagText? argument = none) (rest : List String) :
    items (argument :: rest) = .positional argument :: items rest := by
  rw [items, h]

/-- A flag with an equals sign is read by itself. -/
theorem items_valued {name value : String} (h : flagText? argument = some text)
    (hsplit : splitFlag? text = some (name, value)) (rest : List String) :
    items (argument :: rest) = .flag name (.text value) :: items rest := by
  simp only [items, h, hsplit]

/-- A flag without an equals sign has no value if it is a switch, or if no value is next. -/
theorem items_bare {rest : List String} (h : flagText? argument = some text)
    (hsplit : splitFlag? text = none)
    (hnext : ∀ next ∈ rest.head?,
      switches.contains (String.ofList text) || (flagText? next).isSome) :
    items (argument :: rest) = .flag (String.ofList text) .bare :: items rest := by
  cases rest with
  | nil => simp only [items, h, hsplit]
  | cons next rest =>
    rw [items]
    simp only [h, hsplit, if_pos (hnext next rfl)]

theorem items_taking {next : String} (h : flagText? argument = some text)
    (hsplit : splitFlag? text = none)
    (hnext : ¬ (switches.contains (String.ofList text) || (flagText? next).isSome))
    (rest : List String) : items (argument :: next :: rest) =
      .flag (String.ofList text) (.text next) :: items rest := by
  rw [items]
  simp only [h, hsplit, if_neg hnext]

end

/-! ## Cutting before a flag -/

/-- **Arguments can be cut before a flag**, and what stands before it is read on its own. -/
theorem items_append_flag {flag : String} (hflag : (flagText? flag).isSome)
    (before after : List String) :
    items (before ++ flag :: after) = items before ++ items (flag :: after) := by
  fun_induction items before with
  | case1 => rfl
  | case2 argument rest htext ih =>
    rw [List.cons_append, items_positional htext, ih, List.cons_append]
  | case3 argument rest text htext name value hsplit ih =>
    rw [List.cons_append, items_valued htext hsplit, ih, List.cons_append]
  | case4 argument text htext hsplit =>
    -- the flag behind it is no value for the last argument
    rw [List.cons_append, List.nil_append, items_bare htext hsplit, List.cons_append,
      List.nil_append]
    rintro next ⟨⟩
    rw [hflag, Bool.or_true]
  | case5 argument text htext hsplit name next rest hnext ih =>
    rw [List.cons_append, items_bare htext hsplit, ih, List.cons_append]
    rintro given ⟨⟩
    exact hnext
  | case6 argument text htext hsplit name next rest hnext ih =>
    rw [List.cons_append, List.cons_append, items_taking htext hsplit hnext, ih, List.cons_append]

/-! ## The two spellings -/

section
variable {name : String} (hname : '=' ∉ name.toList)
include hname

theorem items_equalsSign (value : String) (rest : List String) :
    items (("--" ++ name ++ "=" ++ value) :: rest) = .flag name (.text value) :: items rest := by
  have htext : flagText? ("--" ++ name ++ "=" ++ value) =
      some (name.toList ++ '=' :: value.toList) := by
    rw [flagText?_eq_some_iff]
    simp
  have hlead : ∀ c ∈ name.toList, (c != '=') = true := fun c hc =>
    bne_iff_ne.2 fun heq => hname (heq ▸ hc)
  have hsplit : splitFlag? (name.toList ++ '=' :: value.toList) = some (name, value) := by
    rw [splitFlag?, if_pos (by simp), List.takeWhile_append_of_pos hlead,
      List.dropWhile_append_of_pos hlead]
    simp
  exact items_valued htext hsplit rest

section
variable (hswitch : name ∉ switches) {value : String} (hvalue : flagText? value = none)
include hswitch hvalue

theorem items_nextArgument (rest : List String) :
    items (("--" ++ name) :: value :: rest) = .flag name (.text value) :: items rest := by
  have htext : flagText? ("--" ++ name) = some name.toList := by
    rw [flagText?_eq_some_iff]
    simp
  have hsplit : splitFlag? name.toList = none := by
    rw [splitFlag?, if_neg (mt List.contains_iff_mem.1 hname)]
  have hnext : ¬ (switches.contains (String.ofList name.toList) || (flagText? value).isSome) := by
    simp [hswitch, hvalue]
  have htaking := items_taking htext hsplit hnext rest
  rwa [String.ofList_toList] at htaking

/-- Both spellings are read as the same items, whatever stands around them. -/
theorem items_respelled (before after : List String) :
    items (before ++ ("--" ++ name) :: value :: after) =
      items (before ++ ("--" ++ name ++ "=" ++ value) :: after) := by
  have hflag (tail : String) : (flagText? ("--" ++ tail)).isSome := by
    rw [Option.isSome_iff_exists]
    exact ⟨tail.toList, flagText?_eq_some_iff.2 (by simp)⟩
  have hsign : (flagText? ("--" ++ name ++ "=" ++ value)).isSome := by
    rw [String.append_assoc, String.append_assoc]
    exact hflag _
  rw [items_append_flag (hflag name), items_append_flag hsign, items_equalsSign hname,
    items_nextArgument hname hswitch hvalue]

end
end

/-- An argument that does not begin with two hyphens is no flag. -/
theorem flagText?_eq_none_iff {argument : String} :
    flagText? argument = none ↔ ¬ "--".toList <+: argument.toList := by
  rw [flagText?, Option.eq_none_iff_forall_ne_some]
  constructor
  · rintro h ⟨text, htext⟩
    exact h text (List.isPrefixOf?_eq_some_iff_append_eq.2 htext)
  · intro h text htext
    exact h ⟨text, List.isPrefixOf?_eq_some_iff_append_eq.1 htext⟩

/-- **The two spellings of a flag with a value are interchangeable**, wherever behind the command the
flag stands: the command, the flags and the positionals are the same. -/
theorem two_spellings_of_flag {arguments : List String} {place : Nat} {name value : String}
    (hplace : 0 < place) (hargument : arguments[place]? = some ("--" ++ name ++ "=" ++ value))
    (hname : '=' ∉ name.toList) (hswitch : name ∉ switches)
    (hvalue : ¬ "--".toList <+: value.toList) :
    Arguments.ofList (arguments.take place ++ ["--" ++ name, value] ++
      arguments.drop (place + 1)) = Arguments.ofList arguments := by
  obtain ⟨hlt, hget⟩ := List.getElem?_eq_some_iff.1 hargument
  obtain ⟨place, rfl⟩ := Nat.exists_eq_add_of_le' hplace
  cases arguments with
  | nil => exact absurd hlt (Nat.not_lt_zero _)
  | cons command rest =>
    rw [List.getElem_cons_succ] at hget
    have hrest : rest.take place ++ ("--" ++ name ++ "=" ++ value) :: rest.drop (place + 1) =
        rest := by
      rw [← hget, ← List.drop_eq_getElem_cons, List.take_append_drop]
    have hitems := items_respelled hname hswitch (flagText?_eq_none_iff.2 hvalue)
      (rest.take place) (rest.drop (place + 1))
    rw [hrest] at hitems
    rw [List.take_succ_cons, List.drop_succ_cons, List.append_assoc, List.cons_append,
      List.cons_append, List.cons_append, List.nil_append, Arguments.ofList, Arguments.ofList,
      hitems]

/-- A flag with an empty value, behind another one that would take an argument as its value, and
before one that gives it again. -/
theorem two_spellings_of_flag_of_repeated :
    Arguments.ofList ["convert", "--input", "--limit", "", "ads.txt", "--limit=5"] =
        Arguments.ofList ["convert", "--input", "--limit=", "ads.txt", "--limit=5"] ∧
      (Arguments.ofList ["convert", "--input", "--limit=", "ads.txt", "--limit=5"]).flags =
        [("input", .bare), ("limit", .text "5")] := by
  have hargument : ["convert", "--input", "--limit=", "ads.txt", "--limit=5"][2]? =
      some ("--" ++ "limit" ++ "=" ++ "") := rfl
  exact ⟨two_spellings_of_flag (by decide) hargument (by decide) (by decide) (by decide),
    by decide +kernel⟩

end ContentBlocker.CommandLine
