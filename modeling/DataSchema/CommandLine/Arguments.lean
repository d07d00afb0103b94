import DataSchema.Export.Format
import DataSchema.Merge

/-!
# Command lines

A command line is read level by level: options and positional arguments may be mixed, and the first
positional argument of a level with subcommands names the next level. Every option takes a value,
behind a blank or an equals sign, or for a short name also without anything between. An option
stands at most once in a level; the settings file may be given in each, and the innermost one
counts. Behind `--` everything is positional.
-/

namespace DataSchema

inductive Command where
  /-- Loads a schema. -/
  | check (schema : String)
  /-- Converts and validates data files. -/
  | validate (schema : String) (data : List String)
  /-- Merges data files from left to right. -/
  | merge (schema : String) (data : List String) (strategy : Option ListStrategy)
  /-- Writes the node at a path with points. -/
  | export (schema : String) (format : ExportFormat) (path : Option String)
  | showSettings
  | writeSettings (output : String)
deriving DecidableEq

structure CommandLine where
  /-- The settings file that is asked for. -/
  settings : Option String
  command : Command
deriving DecidableEq

namespace CommandLine

/-- An option with its short and its long name. -/
structure Flag where
  short : Char
  long : String
deriving DecidableEq

def settingsFlag : Flag := ⟨'c', "config"⟩

def strategyFlag : Flag := ⟨'s', "strategy"⟩

def formatFlag : Flag := ⟨'f', "format"⟩

def pathFlag : Flag := ⟨'p', "path"⟩

/-- The arguments of one level. -/
structure Level where
  options : Entries String
  positional : List String
  /-- What follows the name of a subcommand. -/
  rest : List String

namespace Level

def empty : Level := ⟨[], [], []⟩

def withOption (level : Level) (flag : Flag) (value : String) : Option Level :=
  if (level.options.lookup flag.long).isSome then none
  else some { level with options := (flag.long, value) :: level.options }

def withPositional (level : Level) (argument : String) : Level :=
  { level with positional := argument :: level.positional }

def option? (level : Level) (flag : Flag) : Option String := level.options.lookup flag.long

end Level

/-- Whether an argument is an option; a hyphen alone is none. -/
def isOption (argument : String) : Bool := argument.toList.head? = some '-' && argument != "-"

/-- The option that an argument names, and the value behind it in the same argument. -/
def optionOf? (flags : List Flag) (argument : List Char) : Option (Flag × Option (List Char)) :=
  match argument with
  | '-' :: '-' :: text =>
    let (name, value) := match Text.splitOnce? '=' text with
      | some (name, value) => (name, some value)
      | none => (text, none)
    (flags.find? fun flag => flag.long.toList = name).map (·, value)
  | '-' :: c :: text =>
    let value := match text with
      | [] => none
      | '=' :: value => some value
      | value => some value
    (flags.find? (·.short = c)).map (·, value)
  | _ => none

/-- Reads the arguments of a level with these options. When it has subcommands, it ends at the
first positional argument. -/
def scan (flags : List Flag) (subcommands : Bool) (level : Level) : List String → Option Level
  | [] => some { level with positional := level.positional.reverse }
  | argument :: rest =>
    if argument = "--" then
      if subcommands && !rest.isEmpty then none
      else some { level with positional := level.positional.reverse ++ rest }
    else if isOption argument then
      match optionOf? flags argument.toList, rest with
      | some (flag, some value), rest =>
        (level.withOption flag (String.ofList value)).bind (scan flags subcommands · rest)
      | some (flag, none), value :: rest =>
        if isOption value then none
        else (level.withOption flag value).bind (scan flags subcommands · rest)
      | some (_, none), [] => none
      | none, _ => none
    else if subcommands then some { level with positional := [argument], rest := rest }
    else scan flags subcommands (level.withPositional argument) rest

/-- A path that may be a file. -/
def filePath? (text : String) : Option String := if text.isEmpty then none else some text

/-- Reads an option that may be missing. -/
def optional? {α : Type} (level : Level) (flag : Flag) (parse : String → Option α) :
    Option (Option α) :=
  match level.option? flag with
  | some value => (parse value).map some
  | none => some none

/-- Reads a level without subcommands, together with the settings file given in it or before it. -/
def finish (settings : Option String) (flags : List Flag) (arguments : List String)
    (command : Level → Option Command) :
    Option CommandLine := do
  let level ← scan (settingsFlag :: flags) false Level.empty arguments
  let inner ← optional? level settingsFlag filePath?
  let command ← command level
  return ⟨inner.orElse fun _ => settings, command⟩

/-- A schema file and at least one data file. -/
def schemaAndData? (level : Level) : Option (String × List String) := do
  let paths ← level.positional.mapM filePath?
  match paths with
  | schema :: first :: others => some (schema, first :: others)
  | _ => none

def check? (level : Level) : Option Command := do
  match level.positional with
  | [schema] => (filePath? schema).map .check
  | _ => none

def validate? (level : Level) : Option Command :=
  (schemaAndData? level).map fun (schema, data) => .validate schema data

def merge? (level : Level) : Option Command := do
  let (schema, data) ← schemaAndData? level
  let strategy ← optional? level strategyFlag ListStrategy.ofName?
  return .merge schema data strategy

def export? (level : Level) : Option Command := do
  let format ← optional? level formatFlag ExportFormat.ofName?
  match level.positional with
  | [schema] =>
    (filePath? schema).map fun schema =>
      .export schema (format.getD .documentation) (level.option? pathFlag)
  | _ => none

def showSettings? (level : Level) : Option Command :=
  if level.positional.isEmpty then some .showSettings else none

/-- The name of the settings file that is written when none is given. -/
def standardOutput : String := "fabric-schema.toml"

def writeSettings? (level : Level) : Option Command :=
  match level.positional with
  | [] => some (.writeSettings standardOutput)
  | [output] => (filePath? output).map .writeSettings
  | _ => none

/-- Reads a level that has subcommands: the settings file so far, the name of the
subcommand and its arguments. -/
def descend (settings : Option String) (arguments : List String) :
    Option (Option String × String × List String) := do
  let level ← scan [settingsFlag] true Level.empty arguments
  let inner ← optional? level settingsFlag filePath?
  match level.positional with
  | [name] => some (inner.orElse fun _ => settings, name, level.rest)
  | _ => none

/-- Reads a command line. -/
def ofArguments? (arguments : List String) : Option CommandLine := do
  let (settings, name, rest) ← descend none arguments
  match name with
  | "check" => finish settings [] rest check?
  | "validate" => finish settings [] rest validate?
  | "merge" => finish settings [strategyFlag] rest merge?
  | "export" => finish settings [formatFlag, pathFlag] rest export?
  | "config" => do
    let (settings, name, rest) ← descend settings rest
    match name with
    | "show" => finish settings [] rest showSettings?
    | "init" => finish settings [] rest writeSettings?
    | _ => none
  | _ => none

/-- How the program is called. -/
def usage : String :=
  "Usage: fabric-schema [-c <file>] check <schema>\n" ++
  "       fabric-schema [-c <file>] validate <schema> <data>...\n" ++
  "       fabric-schema [-c <file>] merge [-s <strategy>] <schema> <data>...\n" ++
  "       fabric-schema [-c <file>] export [-f <format>] [-p <path>] <schema>\n" ++
  "       fabric-schema [-c <file>] config show\n" ++
  "       fabric-schema [-c <file>] config init [<output>]\n"

end CommandLine

end DataSchema
