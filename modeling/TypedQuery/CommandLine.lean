import TypedQuery.Server.ConfigFile
import TypedQuery.Text.Split

/-!
# The command line

The settings of a server come from a configuration file, and what the command line says
counts above it. With a file to write the declarations to, nothing is served.
-/

namespace TypedQuery

structure CommandLine where
  configFile : Option String := none
  port : Option Server.Port := none
  path : Option String := none
  debug : Bool := false
  /-- Where to write the declarations of the schema. -/
  declarationFile : Option String := none

namespace CommandLine

/-- The flags that take a value. -/
def valued : List String := ["--config", "--port", "--path", "--emit-types"]

/-- Splits a flag from a value that is written behind an equals sign. -/
def splitFlag (word : String) : List String :=
  match Text.cutAt '=' word.toList with
  | (flag, some value) =>
    if valued.contains (String.ofList flag) then [String.ofList flag, String.ofList value]
    else [word]
  | (_, none) => [word]

/-- A port as it is written in decimal. -/
def port? (text : String) : Option Server.Port := do
  let port ← Yaml.natOfDigits? 10 text.toList
  if h : port < 65536 then some ⟨port, h⟩ else none

/-- Reads the words one after the other; none if some word is not understood. -/
def readWords? : List String → CommandLine → Option CommandLine
  | [], line => some line
  | "--debug" :: rest, line => readWords? rest { line with debug := true }
  | "--verbose" :: rest, line => readWords? rest line
  | "-v" :: rest, line => readWords? rest line
  | "--config" :: file :: rest, line => readWords? rest { line with configFile := some file }
  | "--path" :: path :: rest, line => readWords? rest { line with path := some path }
  | "--emit-types" :: file :: rest, line =>
    readWords? rest { line with declarationFile := some file }
  | "--port" :: text :: rest, line =>
    match port? text with
    | some port => readWords? rest { line with port := some port }
    | none => none
  | _, _ => none

def ofWords? (words : List String) : Option CommandLine :=
  readWords? (words.flatMap splitFlag) {}

/-- The configuration with what the command line says put above it. -/
def adjust (line : CommandLine) (config : Server.Config) : Server.Config :=
  { port := line.port.getD config.port
    path := line.path.getD config.path
    engine := { config.engine with debug := config.engine.debug || line.debug } }

def usage : String :=
  "usage: [--config FILE] [--port PORT] [--path PATH] [--debug] [--emit-types FILE] [-v]"

example : ((ofWords? ["--port=80", "--debug"]).map fun line => (line.port, line.debug))
    = some (some 80, true) := by decide +kernel

end CommandLine

end TypedQuery
