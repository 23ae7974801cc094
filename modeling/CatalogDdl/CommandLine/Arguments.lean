import CatalogDdl.Text.Numeral

/-!
# Command line arguments

Options come first and may be followed by a command. An option takes the next argument as its value,
whatever that is, unless it starts with a hyphen and is longer than it; a value may also be joined to
an option, after an equals sign or, for a short one, directly. No option is given twice. After a
lone `--` nothing is an option. Asking for the version or for help ends the reading at once; `help`
may be followed by the name of a command.

- `Arguments`: what the arguments say.
- `Stop`: why the reading ends early.
- `Arguments.read`: the reading.
-/

namespace CatalogDdl

/-- What the program is asked to do. -/
inductive Command where
  /-- Convert the selected tables. -/
  | reverse
  /-- Print the statements of a table. -/
  | table (name : String)
  /-- Print what the snapshot holds. -/
  | inspect
  deriving DecidableEq, Repr

/-- What the arguments say. -/
structure Arguments where
  /-- The file with the settings. -/
  config : Option String := none
  catalog : Option String := none
  schema : Option String := none
  targetSchema : Option String := none
  output : Option String := none
  threads : Option Nat := none
  dryRun : Bool := false
  command : Command := .reverse
  deriving DecidableEq, Repr

/-- Why the reading of arguments ends early. -/
inductive Stop where
  | wrongUsage
  | version
  | help
  deriving DecidableEq, Repr

/-- An option with a value. -/
inductive OptionName where
  | config
  | catalog
  | schema
  | targetSchema
  | output
  | threads
  deriving DecidableEq, Repr

namespace OptionName

/-- The options. -/
def all : List OptionName := [.config, .catalog, .schema, .targetSchema, .output, .threads]

/-- The long name of an option, without its hyphens. -/
def long : OptionName → String
  | .config => "config"
  | .catalog => "catalog"
  | .schema => "schema"
  | .targetSchema => "target-schema"
  | .output => "output"
  | .threads => "threads"

/-- The short name of an option, without its hyphen. -/
def short? : OptionName → Option Char
  | .config => some 'c'
  | .catalog => none
  | .schema => some 's'
  | .targetSchema => none
  | .output => some 'o'
  | .threads => some 't'

end OptionName

/-- What an argument with a hyphen asks for. -/
inductive Switch where
  | option (name : OptionName)
  | dryRun
  | version
  | help
  deriving DecidableEq, Repr

namespace Switch

/-- The switch of a long name. -/
def ofLong? (name : String) : Option Switch :=
  if name = "dry-run" then some .dryRun
  else if name = "version" then some .version
  else if name = "help" then some .help
  else (OptionName.all.find? fun o => o.long == name).map .option

/-- The switch of a short name. -/
def ofShort? (c : Char) : Option Switch :=
  if c = 'V' then some .version
  else if c = 'h' then some .help
  else (OptionName.all.find? fun o => o.short? == some c).map .option

end Switch

/-- A value, if there was none before. -/
def setOnce (old : Option α) (new : Option α) : Except Stop (Option α) :=
  match old, new with
  | none, some a => .ok (some a)
  | _, _ => .error .wrongUsage

/-- A path, which is not empty. -/
def pathValue? (value : String) : Option String := if value.isEmpty then none else some value

namespace Arguments

/-- Arguments after an option with its value. -/
def set (a : Arguments) (value : String) : OptionName → Except Stop Arguments
  | .config => do return { a with config := ← setOnce a.config (pathValue? value) }
  | .catalog => do return { a with catalog := ← setOnce a.catalog (pathValue? value) }
  | .schema => do return { a with schema := ← setOnce a.schema (some value) }
  | .targetSchema => do return { a with targetSchema := ← setOnce a.targetSchema (some value) }
  | .output => do return { a with output := ← setOnce a.output (pathValue? value) }
  | .threads => do return { a with threads := ← setOnce a.threads (Text.readNat64? value) }

/-- Arguments after a switch without a value. -/
def turn (a : Arguments) : Switch → Except Stop Arguments
  | .option _ => .error .wrongUsage
  | .dryRun => if a.dryRun then .error .wrongUsage else .ok { a with dryRun := true }
  | .version => .error .version
  | .help => .error .help

end Arguments

/-- An argument by its form. -/
inductive Argument where
  /-- The lone pair of hyphens. -/
  | escape
  /-- A long switch, with the value after its equals sign. -/
  | long (name : String) (value : Option String)
  /-- A short switch, with the value joined to it. -/
  | short (name : Char) (value : Option String)
  | plain (text : String)
  deriving DecidableEq, Repr

/-- The value after an equals sign. -/
def joinedValue? : List Char → Option String
  | '=' :: value => some (String.ofList value)
  | _ => none

/-- The form of an argument. -/
def Argument.ofText (s : String) : Argument :=
  match s.toList with
  | ['-', '-'] => .escape
  | '-' :: '-' :: cs =>
    .long (String.ofList (cs.takeWhile (· != '='))) (joinedValue? (cs.dropWhile (· != '=')))
  | '-' :: c :: cs =>
    .short c ((joinedValue? cs).or (if cs.isEmpty then none else some (String.ofList cs)))
  | _ => .plain s

/-- The arguments after a command, at most `room` of them. -/
def operands (room : Nat) (escaped : Bool) : List String → Except Stop (List String)
  | [] => .ok []
  | s :: rest =>
    match escaped, Argument.ofText s with
    | false, .escape => operands room true rest
    | false, .long "help" none => .error .help
    | false, .long _ _ => .error .wrongUsage
    | false, .short 'h' _ => .error .help
    | false, .short _ _ => .error .wrongUsage
    | _, _ =>
      match room with
      | 0 => .error .wrongUsage
      | n + 1 => (operands n escaped rest).map fun more => s :: more

/-- The names of the commands. -/
def Command.names : List String := ["reverse", "table", "inspect", "help"]

/-- What comes of asking for help on the command that the arguments name. No command has commands of
its own. -/
def helpOn : List String → Stop
  | [] => .help
  | [name] => if Command.names.contains name then .help else .wrongUsage
  | _ => .wrongUsage

/-- The command of a name with the arguments after it. -/
def Command.read (name : String) (rest : List String) : Except Stop Command := do
  match name with
  | "reverse" =>
    let _ ← operands 0 false rest
    return .reverse
  | "inspect" =>
    let _ ← operands 0 false rest
    return .inspect
  | "table" =>
    match ← operands 1 false rest with
    | [operand] => return .table operand
    | _ => throw .wrongUsage
  | "help" => throw (helpOn rest)
  | _ => throw .wrongUsage

namespace Arguments

/-- Arguments after a switch, and the option that waits for its value. -/
def turnWith (a : Arguments) : Option Switch → Option String →
    Except Stop (Arguments × Option OptionName)
  | none, _ => .error .wrongUsage
  | some (.option name), none => .ok (a, some name)
  | some (.option name), some value => (a.set value name).map fun a => (a, none)
  | some switch, none => (a.turn switch).map fun a => (a, none)
  | some _, some _ => .error .wrongUsage

/-- Arguments after a short switch. What follows `-V` or `-h` does not count. -/
def turnShort (a : Arguments) (c : Char) (value : Option String) :
    Except Stop (Arguments × Option OptionName) :=
  match Switch.ofShort? c with
  | some (.option name) => a.turnWith (some (.option name)) value
  | switch => a.turnWith switch none

/-- Arguments after the rest of a command line, where `pending` waits for its value. -/
def readOn (a : Arguments) (pending : Option OptionName) : List String → Except Stop Arguments
  | [] => if pending.isSome then .error .wrongUsage else .ok a
  | s :: rest =>
    match pending, Argument.ofText s with
    | some name, .plain value => do readOn (← a.set value name) none rest
    | some _, _ => .error .wrongUsage
    | none, .long name value => do
      let (a, pending) ← a.turnWith (Switch.ofLong? name) value
      readOn a pending rest
    | none, .short c value => do
      let (a, pending) ← a.turnShort c value
      readOn a pending rest
    | none, .escape => if rest.isEmpty then .ok a else .error .wrongUsage
    | none, .plain name => do return { a with command := ← Command.read name rest }

/-- What a command line says. -/
def read (args : List String) : Except Stop Arguments := readOn {} none args

end Arguments

end CatalogDdl
