import AccessGrants.Database.Reading

/-!
Writing the permission model to the database. The constraints of the schema
decide what may be written, and a write reads off the refusal what was wrong.
Provisioning is one transaction; every other write is a statement or two of its
own.
-/

namespace AccessGrants.Database

open Sql

private def insert {α : Type} (what : String) (statement : Statement) (parameters : List Value)
    (decode : Reply → Except DatabaseError α) : Access α :=
  ExceptT.adapt (.ofInsertion what) (query statement parameters decode)

private def ignore (_ : Reply) : Except DatabaseError Unit :=
  .ok ()

def templateColumns : List String :=
  ["id", "subject", "action", "dictionary_default", "perspective_default"]

def insertActor : Statement :=
  .insert ⟨"actors", [], none, ["id", "active", "superuser"]⟩

def insertSession : Statement :=
  .insert ⟨"sessions", ["actor_id"], none, ["id"]⟩

def insertOrganization : Statement :=
  .insert ⟨"organizations", ["name"], none, ["id"]⟩

def insertMember : Statement :=
  .insert ⟨"organization_members", ["organization_id", "actor_id"], some .ignore, []⟩

def insertTemplate : Statement :=
  .insert ⟨"permission_templates",
    ["subject", "action", "dictionary_default", "perspective_default"], none, templateColumns⟩

def insertGrant : Statement :=
  .insert ⟨"permission_grants",
    ["template_id", "is_override", "subject_client_id", "subject_object_id"], none, ["id"]⟩

def insertActorGrant : Statement :=
  .insert ⟨"actor_grants", ["actor_id", "grant_id"], some .ignore, []⟩

def insertOrganizationGrant : Statement :=
  .insert ⟨"organization_grants", ["organization_id", "grant_id"], some .ignore, []⟩

def insertVisibility : Statement :=
  .insert ⟨"subject_visibility", ["client_id", "object_id", "state"],
    some (.overwrite ["client_id", "object_id"] "state"), []⟩

private def selectTemplates (condition : Expr) (order : Option Expr) : Statement :=
  .select ⟨false, templateColumns.map .bare, ⟨"permission_templates", none⟩, [], some condition,
    order⟩

def templateById : Statement :=
  selectTemplates (.equal (.bare "id") (.placeholder 1)) none

def defaultColumn : InstanceKind → String
  | .dictionary => "dictionary_default"
  | .perspective => "perspective_default"

def defaultTemplates (kind : InstanceKind) : Statement :=
  selectTemplates (.bare (defaultColumn kind)) (some (.bare "id"))

def grantByScope : Statement :=
  .select ⟨false, [.bare "id"], ⟨"permission_grants", none⟩, [],
    some (.all (.equal (.bare "template_id") (.placeholder 1))
      [.equal (.bare "is_override") (.placeholder 2),
        .notDistinct (.bare "subject_client_id") (.placeholder 3),
        .notDistinct (.bare "subject_object_id") (.placeholder 4)]),
    none⟩

/-- Sets a flag of an actor; when no row was touched, there is no such actor. -/
private def setFlag (actor : ActorId) (column : String) (value : Bool) : Access Unit := do
  let touched ← fetch (.update "actors" column) [.int actor.value, .bool value]
    fun reply => .ok reply.affected
  if touched = 0 then throw (.notFound actor.label)

private def fetchDefaults (kind : InstanceKind) : Access (List Template) :=
  fetch (defaultTemplates kind) [] (Reply.all templateOfRow)

private def grantKey (template : Template) (scope : Scope) : List Value :=
  .int template.id.value :: scope.columns.parameters

private def storeGrant (template : Template) (scope : Scope) : Access Grant :=
  insert ("grant of " ++ template.id.label) insertGrant (grantKey template scope)
    (Reply.first fun row => do
      return Grant.ofTemplate (← rowId .grant row 0) template scope)

private def findGrant (template : Template) (scope : Scope) : Access (Option Grant) :=
  fetch grantByScope (grantKey template scope)
    (Reply.first? fun row => do
      return Grant.ofTemplate (← rowId .grant row 0) template scope)

private def linkToActor (grant : GrantId) (actor : ActorId) : Access Unit :=
  insert (grant.label ++ " or " ++ actor.label) insertActorGrant
    [.int actor.value, .int grant.value] ignore

/-- Finds or stores the grant of a template for a scope and links it to the
owner. -/
def attachTemplate (scope : Scope) (owner : ActorId) (template : Template) : Access Grant := do
  let grant ←
    match ← findGrant template scope with
    | some found => pure found
    | none => storeGrant template scope
  linkToActor grant.id owner
  return grant

def attachDefaults (kind : InstanceKind) (id : InstanceId) (owner : ActorId) :
    Access (List Grant) := do
  (← fetchDefaults kind).mapM (attachTemplate (.composite id) owner)

def write : (order : Write) → Access order.Result
  | .createActor => fetch insertActor [] (Reply.first actorOfRow)
  | .setActorActive actor active => setFlag actor "active" active
  | .setActorSuperuser actor superuser => setFlag actor "superuser" superuser
  | .openSession actor =>
    insert actor.label insertSession [.int actor.value]
      (Reply.first fun row => rowId .session row 0)
  | .createOrganization name =>
    insert ("organization " ++ name) insertOrganization [.text name]
      (Reply.first fun row => rowId .organization row 0)
  | .addMember organization actor =>
    insert (organization.label ++ " or " ++ actor.label) insertMember
      [.int organization.value, .int actor.value] ignore
  | .createTemplate subject action defaults =>
    insert ("template " ++ action ++ ":" ++ subject) insertTemplate
      [.text subject, .text action, .bool (defaults.contains .dictionary),
        .bool (defaults.contains .perspective)]
      (Reply.first templateOfRow)
  | .defaultTemplates kind => fetchDefaults kind
  | .createGrant id scope => do
    match ← fetch templateById [.int id.value] (Reply.first? templateOfRow) with
    | none => throw (.notFound id.label)
    | some template => storeGrant template scope
  | .provisionDefaults kind id owner =>
    inTransaction .ofDatabase (attachDefaults kind id owner)
  | .assignToActor grant actor => linkToActor grant actor
  | .assignToOrganization grant organization =>
    insert (grant.label ++ " or " ++ organization.label) insertOrganizationGrant
      [.int organization.value, .int grant.value] ignore
  | .setVisibility id state =>
    fetch insertVisibility [.int id.client, .int id.object, .text state.text] ignore

end AccessGrants.Database
