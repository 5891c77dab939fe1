import ClassInspect.Settings.File

/-!
# The command line of the report

Options and the class path may come in any order. Arguments are read from left to right and the first
problem decides. An option whose value stands in the next argument is open until then: it is settled when
the next option or the class path is reached, or at the end. A double dash ends the options.
-/

namespace ClassInspect

/-- What the command line asks for. -/
structure DumpArguments where
  classPath : Option String
  config : Option String
  format : Option String
  hidePool : Bool
  attributes : Bool
  verbose : Bool
deriving Repr, DecidableEq

/-- Why a command line is refused. -/
inductive UsageError where
  | missingValue (option : String)
  | repeated (option : String)
  | unneededValue (option value : String)
  | unknown (argument : String)
deriving Repr, DecidableEq

/-- Why a command line yields no arguments. -/
inductive UsageStop where
  | help
  | refused (error : UsageError)
deriving Repr, DecidableEq

namespace DumpArguments

def empty : DumpArguments :=
  { classPath := none, config := none, format := none, hidePool := false, attributes := false, verbose := false }

/-- An option that takes a value. -/
inductive ValueOption where
  | config
  | format
deriving Repr, DecidableEq

/-- An option without a value. -/
inductive Switch where
  | hidePool
  | attributes
  | verbose
  | help
deriving Repr, DecidableEq

/-- An option of the command line. -/
inductive Flag where
  | value (option : ValueOption)
  | switch (option : Switch)
deriving Repr, DecidableEq

def ValueOption.text : ValueOption → String
  | config => "--config <CONFIG>"
  | format => "--format <FORMAT>"

def Switch.text : Switch → String
  | hidePool => "--no-constant-pool"
  | attributes => "--attributes"
  | verbose => "--verbose"
  | help => "--help"

/-- The option with a long name. Names are not abbreviated. -/
def longOption? (name : String) : Option Flag :=
  match name with
  | "config" => some (.value .config)
  | "format" => some (.value .format)
  | "no-constant-pool" => some (.switch .hidePool)
  | "attributes" => some (.switch .attributes)
  | "verbose" => some (.switch .verbose)
  | "help" => some (.switch .help)
  | _ => none

/-- The option with a short name. -/
def shortOption? : Char → Option Flag
  | 'c' => some (.value .config)
  | 'v' => some (.switch .verbose)
  | 'h' => some (.switch .help)
  | _ => none

/-- The arguments read so far. -/
structure Progress where
  arguments : DumpArguments
  /-- An option that is not settled, with its value once that was read. -/
  opened : Option (ValueOption × Option String)
  /-- A double dash was read. -/
  optionsEnded : Bool
deriving Repr, DecidableEq

namespace Progress

def start : Progress := { arguments := DumpArguments.empty, opened := none, optionsEnded := false }

def refuse {α : Type} (error : UsageError) : Except UsageStop α := .error (.refused error)

/-- Gives an option its value; no option is given twice. -/
def give (progress : Progress) (option : ValueOption) (value : String) : Except UsageStop Progress :=
  let arguments := progress.arguments
  match option with
  | .config =>
    if arguments.config.isSome then refuse (.repeated option.text)
    else .ok { progress with arguments := { arguments with config := some value } }
  | .format =>
    if arguments.format.isSome then refuse (.repeated option.text)
    else .ok { progress with arguments := { arguments with format := some value } }

/-- Settles the open option. -/
def settle (progress : Progress) : Except UsageStop Progress :=
  match progress.opened with
  | none => .ok progress
  | some (option, none) => refuse (.missingValue option.text)
  | some (option, some value) => { progress with opened := none }.give option value

/-- Turns a switch on; no switch is given twice. -/
def turnOn (progress : Progress) (switch : Switch) : Except UsageStop Progress := do
  let progress ← progress.settle
  let arguments := progress.arguments
  let set (given : Bool) (next : DumpArguments) : Except UsageStop Progress :=
    if given then refuse (.repeated switch.text) else .ok { progress with arguments := next }
  match switch with
  | .hidePool => set arguments.hidePool { arguments with hidePool := true }
  | .attributes => set arguments.attributes { arguments with attributes := true }
  | .verbose => set arguments.verbose { arguments with verbose := true }
  | .help => .error .help

def openOption (progress : Progress) (option : ValueOption) : Except UsageStop Progress := do
  let progress ← progress.settle
  return { progress with opened := some (option, none) }

/-- An option with its value in the same argument. -/
def giveAttached (progress : Progress) (option : ValueOption) (value : String) : Except UsageStop Progress := do
  (← progress.settle).give option value

/-- The argument `--name` or `--name=value`, given as the text behind the dashes. -/
def long (progress : Progress) (argument : String) (text : List Char) : Except UsageStop Progress :=
  let name := String.ofList (text.takeWhile (· != '='))
  let attached := match text.dropWhile (· != '=') with
    | [] => none
    | _ :: value => some (String.ofList value)
  match longOption? name, attached with
  | some (.value option), some value => progress.giveAttached option value
  | some (.value option), none => progress.openOption option
  | some (.switch switch), none => progress.turnOn switch
  | some (.switch switch), some value => refuse (.unneededValue switch.text value)
  | none, _ => refuse (.unknown argument)

/-- The text behind an equals sign at the front. -/
def dropEquals : List Char → List Char
  | '=' :: rest => rest
  | text => text

/-- A bundle of short options, given as the text behind the dash. What follows an option that takes a value
is its value. -/
def bundle (progress : Progress) (argument : String) : List Char → Except UsageStop Progress
  | [] => .ok progress
  | char :: rest =>
    match shortOption? char with
    | some (.switch switch) => do (← progress.turnOn switch).bundle argument rest
    | some (.value option) =>
      if rest.isEmpty then progress.openOption option
      else progress.giveAttached option (String.ofList (dropEquals rest))
    | none => refuse (.unknown argument)

/-- The one argument that is neither an option nor a value. -/
def positional (progress : Progress) (argument : String) : Except UsageStop Progress :=
  if progress.arguments.classPath.isSome then refuse (.unknown argument)
  else do
    let progress ← progress.settle
    return { progress with arguments := { progress.arguments with classPath := some argument } }

/-- An argument that starts with no dash or is nothing but one. -/
def plain (progress : Progress) (argument : String) : Except UsageStop Progress :=
  match progress.opened with
  | some (option, none) => .ok { progress with opened := some (option, some argument) }
  | _ => progress.positional argument

def read (progress : Progress) (argument : String) : Except UsageStop Progress :=
  if progress.optionsEnded then progress.positional argument
  else match argument.toList with
    | ['-', '-'] => .ok { progress with optionsEnded := true }
    | '-' :: '-' :: text => progress.long argument text
    | '-' :: char :: text => progress.bundle argument (char :: text)
    | _ => progress.plain argument

end Progress

/-- Reads a command line behind the name of the program. -/
def parse (arguments : List String) : Except UsageStop DumpArguments := do
  let progress ← arguments.foldlM Progress.read Progress.start
  return (← progress.settle).arguments

/-- The file's settings with those of the command line over them. -/
def applyTo (arguments : DumpArguments) (file : FileSettings) : FileSettings :=
  { file with
    classPath := arguments.classPath <|> file.classPath
    format := arguments.format <|> file.format
    showPool := if arguments.hidePool then some false else file.showPool
    showAttributes := if arguments.attributes then some true else file.showAttributes }

/-- The settings of a report: the command line wins over the file. -/
def merge (arguments : DumpArguments) (file : FileSettings) : Except SettingsError Settings := do
  let merged := arguments.applyTo file
  merged.check
  merged.toSettings

/-- The settings of a report, with the configuration file read if one is named. -/
def resolve (arguments : DumpArguments) (environment : Environment) (read : String → Except HostFailure Bytes) :
    Except SettingsError Settings :=
  match arguments.config with
  | some path => do arguments.merge (← FileSettings.load environment read path)
  | none => arguments.merge FileSettings.empty

end DumpArguments

/-- The description of the command line. -/
def DumpArguments.helpText : String :=
  "Prints the structure of a compiled class file\n" ++
  "\n" ++
  "Usage: class_dump [OPTIONS] [CLASS_PATH]\n" ++
  "\n" ++
  "Arguments:\n" ++
  "  [CLASS_PATH]  Path to the .class file (overrides input.class_path)\n" ++
  "\n" ++
  "Options:\n" ++
  "  -c, --config <CONFIG>   Path to TOML configuration file\n" ++
  "      --format <FORMAT>   Output format: text or json (overrides output.format)\n" ++
  "      --no-constant-pool  Hide the constant pool listing\n" ++
  "      --attributes        Show attribute names\n" ++
  "  -v, --verbose           Enable verbose output\n" ++
  "  -h, --help              Print help\n"

def UsageError.message : UsageError → String
  | missingValue option => s!"a value is required for '{option}' but none was supplied"
  | repeated option => s!"the argument '{option}' cannot be used multiple times"
  | unneededValue option value => s!"unexpected value '{value}' for '{option}' found; no more were expected"
  | unknown argument => s!"unexpected argument '{argument}' found"

/-- What is printed when a command line is refused. -/
def UsageError.text (error : UsageError) : String :=
  s!"error: {error.message}\n\nUsage: class_dump [OPTIONS] [CLASS_PATH]\n\nFor more information, try '--help'.\n"

end ClassInspect
