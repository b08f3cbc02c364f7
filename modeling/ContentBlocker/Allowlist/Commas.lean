import ContentBlocker.Text.Search

/-!
# Repairing commas

When entries are cut out of the text of a content blocker the commas around them stay.
`repairCommas` takes away a comma behind the opening bracket and one before the closing bracket
where an entry stands next to it, and then every comma next to another.
-/

set_option autoImplicit false
namespace ContentBlocker

open Text (occursIn replaceChars)

/-- Replaces two commas by one until there are no two commas next to each other.  Each round
shortens the text. -/
def collapseCommas (s : List Char) : List Char :=
  if h : occursIn [',', ','] s = true then
    have : (replaceChars [',', ','] [','] s).length < s.length :=
      Text.length_replaceChars_lt (by decide) h
    collapseCommas (replaceChars [',', ','] [','] s)
  else
    s
termination_by s.length

theorem not_occursIn_collapseCommas (s : List Char) :
    occursIn [',', ','] (collapseCommas s) = false := by
  fun_induction collapseCommas s with
  | case1 s h _ ih => exact ih
  | case2 s h => simpa using h

/-- A text without a comma between its opening bracket and an entry. -/
def repairStart : List Char → List Char
  | '[' :: ',' :: '\x7b' :: rest => '[' :: '\x7b' :: rest
  | s => s

/-- A text without a comma between an entry and its closing bracket. -/
def repairEnd (s : List Char) : List Char :=
  if ['\x7d', ',', ']'].isSuffixOf s then s.take (s.length - 3) ++ ['\x7d', ']'] else s

/-- The text of a content blocker without the commas that are left where entries were. -/
def repairCommas (s : List Char) : List Char :=
  collapseCommas (repairEnd (repairStart s))

end ContentBlocker
