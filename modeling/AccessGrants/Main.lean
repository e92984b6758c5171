import AccessGrants.Json.Reader
import AccessGrants.Program
import AccessGrants.Sql.Exchange

/-!
The command line program. The database is a peer behind the standard streams:
every command leaves on standard error as one line of JSON, and its reply is
read from standard input as one line of JSON. What the program has to say to
its user goes to standard output, and what went wrong to standard error.
-/

open AccessGrants

namespace AccessGrants.Main

/-- The state that stands for a peer that is gone or cannot be understood. -/
def connectionFailure : String := "08006"

/-- The cause of an error of the system, by its number where its kind is not
enough. -/
def fileError : IO.Error → Settings.FileError
  | .noFileOrDirectory .. => .absent
  | .permissionDenied .. => .denied
  | .inappropriateType _ 20 _ => .notDirectory
  | .inappropriateType _ 21 _ => .isDirectory
  | .invalidArgument _ 36 _ => .nameTooLong
  | error => .other (toString error)

def readFile (path : String) : IO (Except Settings.FileError ByteArray) := do
  match ← (IO.FS.readBinFile path).toBaseIO with
  | .ok bytes => return .ok bytes
  | .error error => return .error (fileError error)

def send (command : Sql.Command) : IO (Except Sql.DatabaseError Sql.Reply) := do
  IO.eprintln command.toJson.compact
  let line ← (← IO.getStdin).getLine
  match (Json.read? line).bind Sql.replyOfJson? with
  | some reply => return reply
  | none => return .error (.rejected connectionFailure "no reply that can be read")

def answer : (request : Program.Request) → IO request.Answer
  | .file path => readFile path
  | .connect _ _ => return .ok ()
  | .send command => send command

def environment : IO Settings.Environment := do
  let found ← Settings.variableNames.mapM fun name => do return (name, ← IO.getEnv name)
  return fun name => (found.lookup name).join

end AccessGrants.Main

def main (args : List String) : IO UInt32 := do
  let program := Program.run (← Main.environment) args
  let report ← program.runM Main.answer fun _ => pure ()
  for line in report.output do
    IO.println line
  for line in report.warnings do
    IO.eprintln line
  match report.failure with
  | some failure => IO.eprintln ("Error: " ++ failure.diagnosis)
  | none => pure ()
  return report.exit
