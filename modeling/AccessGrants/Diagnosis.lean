import AccessGrants.Settings.Basic
import AccessGrants.Sql.Value
import AccessGrants.Text.Quoted

/-!
Why the program failed, and how it says so: by the names of the causes, the
outermost first, with the texts that they carry in quotes.
-/

namespace AccessGrants

private def caused (cause : String) (carried : List String) : String :=
  cause ++ "(" ++ ", ".intercalate carried ++ ")"

private def quotedCause (cause text : String) : String :=
  caused cause [Text.quoted text]

def StorageError.diagnosis : StorageError → String
  | .notFound what => quotedCause "NotFound" what
  | .duplicate what => quotedCause "Duplicate" what
  | .internal reason => quotedCause "Internal" reason

def CheckError.diagnosis : CheckError → String
  | .unrecognizedTarget given => quotedCause "UnrecognizedSubjectRef" given
  | .storage reason => quotedCause "StorageError" reason

def ServiceError.diagnosis : ServiceError → String
  | .check error => caused "Check" [error.diagnosis]
  | .storage error => caused "Storage" [error.diagnosis]
  | .invalidSession session => caused "InvalidSession" [caused "SessionId" [session.text]]

def Settings.LoadError.diagnosis : Settings.LoadError → String
  | .unreadable path error => caused "ReadFile" [Text.quoted path, Text.quoted error.message]
  | .malformed => "ParseToml"
  | .invalid problem => quotedCause "Validation" problem.message

/-- What a database says is not repeated, only what kind of failure it was. -/
def Sql.DatabaseError.diagnosis : Sql.DatabaseError → String
  | .rejected _ _ => "Database"
  | .noRows => "RowNotFound"
  | .noColumn _ _ => "ColumnIndexOutOfBounds"
  | .unexpectedNull _ | .mismatched _ _ _ => "ColumnDecode"
  | .badEndpoint _ => "Configuration"
  | .unreachable _ => "Io"

inductive Failure where
  | settings (error : Settings.LoadError)
  | target (error : CheckError)
  | connection (error : StorageError)
  | service (error : ServiceError)
  | migration (error : Sql.DatabaseError)
  deriving DecidableEq, Repr

def Failure.diagnosis : Failure → String
  | .settings error => error.diagnosis
  | .target error => error.diagnosis
  | .connection error => error.diagnosis
  | .service error => error.diagnosis
  | .migration error => error.diagnosis

end AccessGrants
