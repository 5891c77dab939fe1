import ClassInspect.Json.Basic

/-!
# Log events

An event has a level, an origin, a message and fields. Which events are shown depends on the level and on
the origin; a shown event is one line, either for people or as a JSON object.
-/

namespace ClassInspect.Log

inductive Level where
  | error
  | warn
  | info
  | debug
  | trace
deriving Repr, DecidableEq

namespace Level

def name : Level → String
  | error => "ERROR"
  | warn => "WARN"
  | info => "INFO"
  | debug => "DEBUG"
  | trace => "TRACE"

/-- Larger for levels with more detail. -/
def detail : Level → Nat
  | error => 1
  | warn => 2
  | info => 3
  | debug => 4
  | trace => 5

def all : List Level := [error, warn, info, debug, trace]

end Level

/-- Where an event comes from. -/
inductive Origin where
  /-- The work itself. -/
  | library
  /-- The command around it. -/
  | command
deriving Repr, DecidableEq

structure Event where
  level : Level
  origin : Origin
  message : String
  fields : List (String × Json)
deriving Repr

/-- The greatest detail shown from each origin; nothing is shown from an origin without one. -/
structure Filter where
  library : Option Level
  command : Option Level
deriving Repr, DecidableEq

namespace Filter

def everywhere (level : Option Level) : Filter := ⟨level, level⟩

/-- The filter that the text of a level asks for, in any case of letters. -/
def ofText? (text : String) : Option Filter :=
  let name := text.map Char.toUpper
  if name = "OFF" then some (everywhere none)
  else (Level.all.find? (·.name = name)).map fun level => everywhere (some level)

/-- A request in the environment wins. Otherwise the library speaks from `info` on; with more detail asked
for, it speaks from `debug` on and the command from `info` on. -/
def choose (request : Option String) (verbose : Bool) : Filter :=
  (request.bind ofText?).getD (if verbose then ⟨some .debug, some .info⟩ else ⟨some .info, none⟩)

def shows (filter : Filter) (event : Event) : Bool :=
  let limit := match event.origin with
    | .library => filter.library
    | .command => filter.command
  match limit with
  | some level => event.level.detail ≤ level.detail
  | none => false

end Filter

/-- The shape of a log line. -/
inductive Shape where
  | compact
  | json
deriving Repr, DecidableEq

/-- Characters that would control a terminal are spelled out. -/
def spell (char : Char) : List Char :=
  let code := char.toNat
  if code = 0x1B || code = 0x07 || code = 0x08 || code = 0x0C || code = 0x7F then
    let digits := Nat.toDigits 16 code
    '\\' :: 'x' :: List.replicate (2 - digits.length) '0' ++ digits
  else if 0x80 ≤ code && code ≤ 0x9F then '\\' :: 'u' :: '\x7b' :: Nat.toDigits 16 code ++ ['\x7d']
  else [char]

/-- A line for people: the level, the message and the fields. -/
def compactLine (event : Event) : String :=
  let message := String.ofList (event.message.toList.flatMap spell)
  let fields := event.fields.map fun (key, value) => s!" {key}={value.compact}"
  s!"{event.level.name} {message}{String.join fields}\n"

/-- A line that is a JSON object. -/
def jsonLine (event : Event) : String :=
  let document : Json := .object [("level", .string event.level.name),
    ("fields", .object (("message", .string event.message) :: event.fields))]
  document.compact ++ "\n"

def line : Shape → Event → String
  | .compact => compactLine
  | .json => jsonLine

end ClassInspect.Log
