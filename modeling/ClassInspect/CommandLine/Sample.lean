/-!
# The command line of the sample program

Every command line is accepted. Two flags may lead it; from the first other argument on, everything is
kept as it is. If a leading flag is repeated or has a value, the flags count wherever they stand and all
other arguments are kept.
-/

namespace ClassInspect

structure SampleArguments where
  verbose : Bool
  jsonLogs : Bool
  rest : List String
deriving Repr, DecidableEq

namespace SampleArguments

def empty : SampleArguments := { verbose := false, jsonLogs := false, rest := [] }

/-- Leading flags, each at most once and without a value. A double dash before the other arguments is dropped. -/
def leading? (found : SampleArguments) : List String → Option SampleArguments
  | [] => some found
  | argument :: rest =>
    if argument = "--" then some { found with rest }
    else if argument = "--verbose" then
      if found.verbose then none else leading? { found with verbose := true } rest
    else if argument = "--json-logs" then
      if found.jsonLogs then none else leading? { found with jsonLogs := true } rest
    else if argument.startsWith "--verbose=" || argument.startsWith "--json-logs=" then none
    else some { found with rest := argument :: rest }

/-- Flags anywhere; a double dash is an argument like others. -/
def anywhere (arguments : List String) : SampleArguments :=
  { verbose := arguments.contains "--verbose"
    jsonLogs := arguments.contains "--json-logs"
    rest := arguments.filter fun argument => argument != "--verbose" && argument != "--json-logs" }

/-- Reads a command line behind the name of the program. -/
def parse (arguments : List String) : SampleArguments :=
  (leading? empty arguments).getD (anywhere arguments)

end SampleArguments

end ClassInspect
