import TypedQuery.CommandLine
import TypedQuery.Declarations.Printer
import TypedQuery.Directory
import TypedQuery.Server.Basic

/-!
# The program

Serves the directory of users. Requests come in on standard input, one JSON object to a line
with a method, a target, headers and a body, and each is answered by a line with a status
and a body. With a file for the declarations, the program writes them and ends.
-/

namespace TypedQuery.Program

/-- The configuration that the command line asks for, or what is wrong with it. -/
def loadConfig (line : CommandLine) : IO (Except String Server.Config) := do
  match line.configFile with
  | none => return .ok (line.adjust .default)
  | some file =>
    let text ← IO.FS.readFile file
    match Server.Config.ofFile? text with
    | some config => return .ok (line.adjust config)
    | none => return .error ("invalid config " ++ file)

/-- The text of the declarations of a schema. -/
def declarations (schema : Schema) (config : Server.Config) : Except Error String := do
  let document ← Declarations.ofSchema schema
  return document.render { marker := config.engine.marker }

def answerLine (server : Server) (line : String) : String :=
  match (Json.parse? line).bind Server.Request.ofJson? with
  | some request => (server.answer request).2.toJson.render
  | none => (Server.Response.toJson ⟨400, ""⟩).render

partial def serveLines (server : Server) (input output : IO.FS.Stream) : IO Unit := do
  let line ← input.getLine
  if line.isEmpty then return
  output.putStrLn (answerLine server line)
  output.flush
  serveLines server input output

def complain (message : String) : IO UInt32 := do
  IO.eprintln message
  return 1

def run (line : CommandLine) : IO UInt32 := do
  match ← loadConfig line with
  | .error message => complain message
  | .ok config =>
    let schema := Directory.schema Directory.sampleUsers
    match line.declarationFile with
    | some file =>
      match declarations schema config with
      | .ok text => IO.FS.writeFile file text; return 0
      | .error error => complain error.text
    | none =>
      match Server.new schema config with
      | .ok server => serveLines server (← IO.getStdin) (← IO.getStdout); return 0
      | .error error => complain error.text

end TypedQuery.Program

def main (words : List String) : IO UInt32 :=
  match TypedQuery.CommandLine.ofWords? words with
  | some line => TypedQuery.Program.run line
  | none => TypedQuery.Program.complain TypedQuery.CommandLine.usage
