/-!
# JSON values

A JSON value, with the members of an object kept in the order in which they are written.  A number
is kept as its numeral: whoever needs its value reads it (`Number.ofText`), and whoever counts
something writes its digits (`Json.ofNat`).
-/

set_option autoImplicit false
namespace ContentBlocker

/-- A JSON value. -/
inductive Json where
  | null
  | bool (value : Bool)
  /-- A number, as it is written. -/
  | number (numeral : String)
  | str (value : String)
  | arr (elements : List Json)
  /-- An object, with its members in the order in which they are written. -/
  | obj (members : List (String × Json))
  deriving Inhabited, BEq

namespace Json

/-- A count. -/
def ofNat (n : Nat) : Json :=
  .number (toString n)

/-- An integer. -/
def ofInt (n : Int) : Json :=
  .number (toString n)

/-- An array of strings. -/
def ofStrings (ss : List String) : Json :=
  .arr (ss.map .str)

/-- The value of the last member with the given name, if the value is an object with one. -/
def field? (name : String) : Json → Option Json
  | .obj members => (members.reverse.find? (·.1 == name)).map (·.2)
  | _ => none

/-- The elements of an array. -/
def elements? : Json → Option (List Json)
  | .arr elements => some elements
  | _ => none

/-- The text of a string. -/
def text? : Json → Option String
  | .str s => some s
  | _ => none

/-- The value of `true` or `false`. -/
def bool? : Json → Option Bool
  | .bool b => some b
  | _ => none

end Json
end ContentBlocker
