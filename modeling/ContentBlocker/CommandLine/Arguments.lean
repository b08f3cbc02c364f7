/-!
# Arguments of the command line

The first argument is the command, `help` if there is none.  An argument that begins with two
hyphens is a flag and any other is a positional.  A flag has a value if there is an equals sign in
it, or else if the next argument is not a flag; but some flags are switches and never take the next
argument.  Of a flag that is given more than once the last value counts.

Flags are kept as properties of an object, and of these one is not free: by `__proto__` an object
reaches what it inherits from, and to set it to a text or a truth value does nothing.  So a flag with
that name is read and forgotten.
-/

set_option autoImplicit false
namespace ContentBlocker.CommandLine

/-- What a flag has been given. -/
inductive FlagValue where
  /-- Nothing. -/
  | bare
  | text (value : String)
  deriving DecidableEq

/-- What arguments stand for. -/
inductive Item where
  | flag (name : String) (value : FlagValue)
  | positional (text : String)
  deriving DecidableEq

/-- The flags that never take the next argument as their value. -/
def switches : List String :=
  ["advanced-blocking", "remove", "inverted"]

/-! ## Reading arguments -/

/-- The name and perhaps the value in an argument that is a flag. -/
def flagText? (argument : String) : Option (List Char) :=
  ['-', '-'].isPrefixOf? argument.toList

/-- Splits a flag at its first equals sign, if it has one. -/
def splitFlag? (text : List Char) : Option (String × String) :=
  if text.contains '=' then
    some (String.ofList (text.takeWhile (· != '=')),
      String.ofList ((text.dropWhile (· != '=')).drop 1))
  else
    none

/-- What the arguments behind the command stand for. -/
def items : List String → List Item
  | [] => []
  | argument :: rest =>
    match flagText? argument with
    | none => .positional argument :: items rest
    | some text =>
      match splitFlag? text with
      | some (name, value) => .flag name (.text value) :: items rest
      | none =>
        let name := String.ofList text
        match rest with
        | [] => [.flag name .bare]
        | next :: rest' =>
          if switches.contains name || (flagText? next).isSome then
            .flag name .bare :: items (next :: rest')
          else
            .flag name (.text next) :: items rest'

/-! ## Flags by name -/

/-- The flags that have been given, each with the value that counts. -/
abbrev Flags := List (String × FlagValue)

/-- The name of flags that are forgotten, because it is that of an inherited property which cannot be
set to the value of a flag. -/
def reservedName : String :=
  "__proto__"

namespace Flags

/-- The flags with one more, or with another value for it. -/
def insert (flags : Flags) (name : String) (value : FlagValue) : Flags :=
  if name = reservedName then flags
  else flags.filter (·.1 != name) ++ [(name, value)]

/-- The flags among some items. -/
def ofItems (items : List Item) : Flags :=
  items.foldl (fun flags item =>
    match item with
    | .flag name value => flags.insert name value
    | .positional _ => flags) []

/-- The value of a flag that has one. -/
def text? (flags : Flags) (name : String) : Option String :=
  match flags.lookup name with
  | some (.text value) => some value
  | _ => none

/-- Whether a flag has been given without a value. -/
def isSet (flags : Flags) (name : String) : Bool :=
  flags.lookup name == some .bare

end Flags

/-- The arguments of the command line. -/
structure Arguments where
  command : String
  flags : Flags
  positionals : List String
  deriving DecidableEq

/-- The positional among some items. -/
def Item.positional? : Item → Option String
  | .positional text => some text
  | .flag _ _ => none

/-- Reads the arguments of the command line. -/
def Arguments.ofList : List String → Arguments
  | [] => ⟨"help", [], []⟩
  | command :: rest =>
    ⟨command, .ofItems (items rest), (items rest).filterMap Item.positional?⟩

end ContentBlocker.CommandLine
