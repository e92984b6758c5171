import AccessGrants.Id

/-!
What can go wrong. Each layer has its own causes and wraps those of the layer
below it: a store fails, a check fails because its store did, and the service
fails because a check or a write did. `message` is the one place where a cause
gets its wording.
-/

namespace AccessGrants

/-- Why a store refused a read or a write. A store may be any backend, so what
it names and what it complains about is text. -/
inductive StorageError where
  | notFound (what : String)
  | duplicate (what : String)
  | internal (reason : String)
  deriving DecidableEq, Repr

def StorageError.message : StorageError → String
  | .notFound what => "not found: " ++ what
  | .duplicate what => "already exists: " ++ what
  | .internal reason => "internal storage error: " ++ reason

inductive CheckError where
  /-- The text or value given as a target has none of the three shapes. -/
  | unrecognizedTarget (given : String)
  | storage (reason : String)
  deriving DecidableEq, Repr

def CheckError.message : CheckError → String
  | .unrecognizedTarget given => "unrecognized subject reference: " ++ given
  | .storage reason => "storage error: " ++ reason

/-- A check keeps of a storage error only its wording. -/
def CheckError.ofStorage (error : StorageError) : CheckError :=
  .storage error.message

inductive ServiceError where
  | check (error : CheckError)
  | storage (error : StorageError)
  /-- The session does not resolve to an actor: the caller has to sign in again. -/
  | invalidSession (session : SessionId)
  deriving DecidableEq, Repr

def ServiceError.message : ServiceError → String
  | .check error => "check error: " ++ error.message
  | .storage error => "storage error: " ++ error.message
  | .invalidSession session => "invalid session: " ++ session.text

end AccessGrants
