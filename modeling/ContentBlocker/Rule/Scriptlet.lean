import ContentBlocker.Rule.Error

/-!
# Calls of scriptlets

A scriptlet rule is a call: `//scriptlet(`, arguments in quotation marks, and a closing parenthesis.
The first argument is the name of the scriptlet.  Between arguments there may be any commas and
spaces.  An argument is in single or double marks, and a backslash in it makes the character behind
it stand for itself.
-/

set_option autoImplicit false
namespace ContentBlocker

/-- A call of a scriptlet. -/
structure ScriptletCall where
  name : String
  arguments : List String
  deriving DecidableEq

namespace ScriptletCall

/-- What a call begins with. -/
def opening : List Char :=
  "//scriptlet(".toList

/-- Reads an argument from behind its opening mark up to its closing one. -/
def readQuoted (mark : Char) : List Char → Option (List Char × List Char)
  | [] => none
  | ['\\'] => none
  | '\\' :: c :: rest => (readQuoted mark rest).map fun (value, rest) => (c :: value, rest)
  | c :: rest =>
    if c = mark then some ([], rest)
    else (readQuoted mark rest).map fun (value, rest) => (c :: value, rest)

theorem length_readQuoted {mark : Char} {s value rest : List Char}
    (h : readQuoted mark s = some (value, rest)) : rest.length < s.length := by
  fun_induction readQuoted mark s generalizing value with
  | case1 => cases h
  | case2 => cases h
  | case3 c s ih =>
    obtain ⟨⟨_, _⟩, hp, hq⟩ := Option.map_eq_some_iff.1 h
    cases hq
    have := ih hp
    simp only [List.length_cons]
    omega
  | case4 => cases h; simp
  | case5 c s _ _ _ ih =>
    obtain ⟨⟨_, _⟩, hp, hq⟩ := Option.map_eq_some_iff.1 h
    cases hq
    have := ih hp
    simp only [List.length_cons]
    omega

/-- Why a list of arguments cannot be read. -/
inductive ArgumentFault where
  | unquoted
  | unterminated
  deriving DecidableEq

/-- Reads a list of arguments. -/
def readArguments (s : List Char) : Except ArgumentFault (List (List Char)) :=
  match s with
  | [] => .ok []
  | c :: rest =>
    if c = ' ' ∨ c = ',' then
      readArguments rest
    else if c = '\'' ∨ c = '"' then
      match _h : readQuoted c rest with
      | none => .error .unterminated
      | some (value, rest') => (readArguments rest').map (value :: ·)
    else
      .error .unquoted
termination_by s.length
decreasing_by
  · simp
  · have := length_readQuoted _h
    simp only [List.length_cons]
    omega

/-- Reads a call that begins as calls do. -/
def ofChars (s : List Char) : Except RuleError ScriptletCall :=
  let call := String.ofList s
  if s.getLast? = some ')' then
    match readArguments (s.drop opening.length).dropLast with
    | .error .unquoted => .error (.unquotedArgument call)
    | .error .unterminated => .error (.unterminatedArgument call)
    | .ok [] => .error (.missingScriptletName call)
    | .ok (name :: arguments) =>
      if name.isEmpty then .error (.missingScriptletName call)
      else .ok ⟨String.ofList name, arguments.map String.ofList⟩
  else
    .error (.invalidScriptletCall call)

/-- The call as a JSON object, which is how it is handed to the scriptlet. -/
def toJson (call : ScriptletCall) : Json :=
  .obj [("name", .str call.name), ("args", .ofStrings call.arguments)]

end ScriptletCall
end ContentBlocker
