import CatalogDdl.Settings.Layer
import CatalogDdl.Number.Binary64

/-!
# Settings in the environment

A variable whose name starts with `ORA2MY_`, in any case, gives a setting its value. The rest of the
name in lower case is the key, where two underscores stand for a dot. The text becomes a truth value,
an integer or a float if it can be read as one, and else stays a text.

- `environmentKey?`: the key of a variable.
- `environmentValue`: the value of a variable.
- `environmentLayer`: the settings of an environment.
- `environmentOfBlock`: the variables in the form in which a system hands them to a program.
-/

namespace CatalogDdl

/-- The start of the names of variables, in lower case. -/
def variableStart : List Char := "ora2my_".toList

/-- A name with a dot for every two underscores. -/
def dotUnderscores : List Char → List Char
  | '_' :: '_' :: cs => '.' :: dotUnderscores cs
  | c :: cs => c :: dotUnderscores cs
  | [] => []

/-- The key of a variable. -/
def environmentKey? (name : String) : Option String :=
  let n := variableStart.length
  if Text.lowerChars (name.toList.take n) = variableStart then
    some (String.ofList (Text.lowerChars (dotUnderscores (name.toList.drop n))))
  else none

/-- The value of a variable. -/
def environmentValue (s : String) : Toml :=
  let word := Text.lower s
  if word = "true" then .bool true
  else if word = "false" then .bool false
  else
    match Text.readInt64? s, Binary64.read? s.toList with
    | some i, _ => .integer i
    | none, some x => .float x
    | none, none => .text s

/-- The settings of an environment. -/
def environmentLayer (environment : List (String × String)) : Layer :=
  environment.filterMap fun v => (environmentKey? v.1).map fun key => (key, environmentValue v.2)

/-- A name and a value with an equals sign between them. -/
def assignment? (cs : List Char) : Option (String × String) :=
  match cs.dropWhile (· != '=') with
  | '=' :: value => some (String.ofList (cs.takeWhile (· != '=')), String.ofList value)
  | _ => none

/-- The variables of a block in which each one ends with a null character. -/
def environmentOfBlock (block : String) : List (String × String) :=
  (Text.splitAt (Char.ofNat 0) block.toList).filterMap assignment?

end CatalogDdl
