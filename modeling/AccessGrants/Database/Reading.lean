import AccessGrants.Database.Record
import AccessGrants.Sql.Conversation
import AccessGrants.Store.Request

/-!
Reading the permission model from the database. Every read is one query; which
grants cover a target is decided by the condition of the query.
-/

namespace AccessGrants.Database

open Sql

/-- A computation on the database that fails as a store does. -/
abbrev Access (α : Type) : Type := Conversation StorageError α

/-- Sends a command none of whose errors is expected. -/
def fetch {α : Type} (statement : Statement) (parameters : List Value)
    (decode : Reply → Except DatabaseError α) : Access α :=
  ExceptT.adapt .ofDatabase (query statement parameters decode)

def table (name label : String) : Source :=
  ⟨name, some label⟩

def join (name label column otherLabel otherColumn : String) : Join :=
  ⟨table name label, .equal (.column label column) (.column otherLabel otherColumn)⟩

def grantsOf (label : String) : Join :=
  join "permission_grants" "g" "id" label "grant_id"

def templatesOfGrants : Join :=
  join "permission_templates" "t" "id" "g" "template_id"

def isParameter (label column : String) (index : Nat) : Expr :=
  .equal (.column label column) (.placeholder index)

def grantColumns : List Expr :=
  [.column "g" "id", .column "g" "template_id", .column "t" "subject", .column "t" "action",
    .column "g" "is_override", .column "g" "subject_client_id", .column "g" "subject_object_id"]

def selectGrants (distinct : Bool) (source : Source) (joins : List Join)
    (condition : Expr) : Statement :=
  .select ⟨distinct, grantColumns, source, joins, some condition, some (.column "g" "id")⟩

/-- The second parameter is the subject type, or null for any. -/
def ofSubject : Expr :=
  .group (.either (.isNull (.typed 2 .text)) (isParameter "t" "subject" 2))

def actorForSession : Statement :=
  .select ⟨false, [.column "a" "id", .column "a" "active", .column "a" "superuser"],
    table "sessions" "s", [join "actors" "a" "id" "s" "actor_id"],
    some (isParameter "s" "id" 1), none⟩

def actorGrants : Statement :=
  selectGrants false (table "actor_grants" "ag") [grantsOf "ag", templatesOfGrants]
    (.both (isParameter "ag" "actor_id" 1) ofSubject)

def organizationGrants : Statement :=
  selectGrants true (table "organization_members" "m")
    [join "organization_grants" "og" "organization_id" "m" "organization_id", grantsOf "og",
      templatesOfGrants]
    (.both (isParameter "m" "actor_id" 1) ofSubject)

def subjectGrants (target : Target) : Statement :=
  selectGrants false (table "permission_grants" "g") [templatesOfGrants]
    (.both (isParameter "t" "subject" 1) (target.condition 2))

inductive Holder where
  | actor
  | organizations
  deriving DecidableEq, Repr

def Holder.source : Holder → Source
  | .actor => table "actor_grants" "h"
  | .organizations => table "organization_members" "m"

def Holder.joins : Holder → List Join
  | .actor => [grantsOf "h"]
  | .organizations =>
    [join "organization_grants" "h" "organization_id" "m" "organization_id", grantsOf "h"]

def Holder.label : Holder → String
  | .actor => "h"
  | .organizations => "m"

def grantExists (holder : Holder) (target : Target) : Statement :=
  .selectExists ⟨false, [.number 1], holder.source, holder.joins ++ [templatesOfGrants],
    some (.all (isParameter holder.label "actor_id" 1)
      [isParameter "t" "subject" 2, isParameter "t" "action" 3, target.condition 4]),
    none⟩

def visibilityOf : Statement :=
  .select ⟨false, [.bare "state"], ⟨"subject_visibility", none⟩, [],
    some (.both (.equal (.bare "client_id") (.placeholder 1))
      (.equal (.bare "object_id") (.placeholder 2))),
    none⟩

/-- Fetches grants. All rows are read before the first scope is looked at. -/
def fetchGrants (statement : Statement) (parameters : List Value) :
    Access (List Grant) := do
  let rows ← fetch statement parameters (Reply.all grantOfRow)
  ExceptT.mk (.done (rows.mapM GrantRecord.grant))

def fetchExists (holder : Holder) (wanted : GrantQuery) (actor : ActorId) :
    Access Bool :=
  fetch (grantExists holder wanted.target)
    ([.int actor.value, .text wanted.subject, .text wanted.action] ++
      wanted.target.numbers.map .int)
    (Reply.first fun row => row.bool 0)

def read : (question : Read) → Access question.Result
  | .actorForSession session =>
    fetch actorForSession [.int session.value] (Reply.first? actorOfRow)
  | .actorGrants actor subject =>
    fetchGrants actorGrants [.int actor.value, .ofText? subject]
  | .organizationGrants actor subject =>
    fetchGrants organizationGrants [.int actor.value, .ofText? subject]
  | .subjectGrants subject target =>
    fetchGrants (subjectGrants target) (.text subject :: target.numbers.map .int)
  | .grantExistsForActor wanted actor => fetchExists .actor wanted actor
  | .grantExistsForOrganizations wanted actor => fetchExists .organizations wanted actor
  | .visibility id =>
    fetch visibilityOf [.int id.client, .int id.object]
      (Reply.first? fun row => (row.text 0).map Visibility.ofText)

/-- Puts the reads of a call to the database. -/
def serve {ε α : Type} (call : ExceptT ε (Dialogue Read Read.Answer) α) : Conversation ε α :=
  ExceptT.mk <| call.run.relay fun question => (read question).run

end AccessGrants.Database
