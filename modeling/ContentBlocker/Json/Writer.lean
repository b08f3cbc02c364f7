import ContentBlocker.Json.Basic

/-!
# Writing JSON

`Json.compact` writes a value without any white space and `Json.indented` with two spaces for each
level, one element or member to a line.

Inside a string the quotation mark, the backslash and the characters below U+0020 are escaped, five
of the latter by a letter and the others by four hexadecimal digits in lower case.  Everything else
stands for itself, the slash, U+007F and U+2028 included.
-/

set_option autoImplicit false
namespace ContentBlocker.Json

/-! ## Strings -/

/-- A hexadecimal digit, in lower case. -/
def hexDigit (n : Nat) : Char :=
  if n < 10 then Char.ofNat (0x30 + n) else Char.ofNat (0x57 + n)

/-- What stands for a character inside a string. -/
def escapeChar (c : Char) : List Char :=
  if c = '"' then ['\\', '"']
  else if c = '\\' then ['\\', '\\']
  else if c = '\x08' then ['\\', 'b']
  else if c = '\t' then ['\\', 't']
  else if c = '\n' then ['\\', 'n']
  else if c = '\x0c' then ['\\', 'f']
  else if c = '\r' then ['\\', 'r']
  else if c.toNat < 0x20 then
    ['\\', 'u', '0', '0', hexDigit (c.toNat / 16), hexDigit (c.toNat % 16)]
  else [c]

/-- A string, between quotation marks. -/
def quoteChars (s : List Char) : List Char :=
  '"' :: s.flatMap escapeChar ++ ['"']

/-- A string, between quotation marks. -/
def quote (s : String) : String :=
  String.ofList (quoteChars s.toList)

example : quote "a\"\\\n\x01/\x7f" = "\"a\\\"\\\\\\n\\u0001/\x7f\"" := by decide

/-! ## Values without white space -/

/-- Items between two brackets, with commas between them. -/
def bracketed (opening closing : Char) (items : List (List Char)) : List Char :=
  opening :: [','].intercalate items ++ [closing]

mutual

/-- The characters of a value, written without white space. -/
def chars : Json → List Char
  | .null => "null".toList
  | .bool true => "true".toList
  | .bool false => "false".toList
  | .number numeral => numeral.toList
  | .str s => quoteChars s.toList
  | .arr elements => bracketed '[' ']' (elementChars elements)
  | .obj members => bracketed '\x7b' '\x7d' (memberChars members)

/-- Each of the values of a list, written without white space. -/
def elementChars : List Json → List (List Char)
  | [] => []
  | v :: vs => chars v :: elementChars vs

/-- Each of the members of an object, written without white space. -/
def memberChars : List (String × Json) → List (List Char)
  | [] => []
  | (name, v) :: members => (quoteChars name.toList ++ ':' :: chars v) :: memberChars members

end

/-- A value, written without white space. -/
def compact (v : Json) : String :=
  String.ofList (chars v)

theorem elementChars_eq_map (vs : List Json) : elementChars vs = vs.map chars := by
  induction vs with
  | nil => rfl
  | cons v vs ih => rw [elementChars, ih, List.map_cons]

theorem memberChars_eq_map (members : List (String × Json)) :
    memberChars members = members.map fun m => quoteChars m.1.toList ++ ':' :: chars m.2 := by
  induction members with
  | nil => rfl
  | cons m members ih => rw [memberChars, ih, List.map_cons]

/-- An array is its elements, between brackets and with commas between them. -/
theorem chars_arr (vs : List Json) : chars (.arr vs) = bracketed '[' ']' (vs.map chars) := by
  rw [← elementChars_eq_map]
  rfl

/-! ## Values on several lines -/

/-- A new line at the given level. -/
def newLine (level : Nat) : List Char :=
  '\n' :: List.replicate (2 * level) ' '

/-- Items one level deeper than their brackets, each on a line of its own. -/
def blockOf (level : Nat) (opening closing : Char) (items : List (List Char)) : List Char :=
  if items.isEmpty then
    [opening, closing]
  else
    opening :: newLine (level + 1) ++ (',' :: newLine (level + 1)).intercalate items ++
      newLine level ++ [closing]

mutual

/-- The characters of a value that stands at the given level, on several lines. -/
def indentedChars (level : Nat) : Json → List Char
  | .arr elements => blockOf level '[' ']' (indentedElements (level + 1) elements)
  | .obj members => blockOf level '\x7b' '\x7d' (indentedMembers (level + 1) members)
  | v => chars v

/-- Each of the values of a list that stands at the given level. -/
def indentedElements (level : Nat) : List Json → List (List Char)
  | [] => []
  | v :: vs => indentedChars level v :: indentedElements level vs

/-- Each of the members of an object that stand at the given level. -/
def indentedMembers (level : Nat) : List (String × Json) → List (List Char)
  | [] => []
  | (name, v) :: members =>
    (quoteChars name.toList ++ ':' :: ' ' :: indentedChars level v) :: indentedMembers level members

end

/-- A value on several lines, with two spaces for each level. -/
def indented (v : Json) : String :=
  String.ofList (indentedChars 0 v)

end ContentBlocker.Json
