import AccessGrants.Sql.Conversation

/-!
The tables of the permission model. Applying the schema creates what is missing
and leaves alone what is there, so it may be applied any number of times.
-/

namespace AccessGrants.Database

open Sql

namespace Schema

private def key : Column :=
  ⟨"id", .serial, [.primaryKey]⟩

private def text (name : String) : Column :=
  ⟨name, .plain .text, [.notNull]⟩

private def flag (name value : String) : Column :=
  ⟨name, .plain .boolean, [.notNull, .default value]⟩

private def number (name : String) : Column :=
  ⟨name, .plain .bigint, [.notNull]⟩

private def reference (name table : String) : Column :=
  ⟨name, .plain .bigint, [.notNull, .references table "id"]⟩

private def createdAt : Column :=
  ⟨"created_at", .timestamp, [.notNull, .default "now()"]⟩

def actors : TableDefinition :=
  ⟨"actors", [key, flag "active" "TRUE", flag "superuser" "FALSE", createdAt], []⟩

def sessions : TableDefinition :=
  ⟨"sessions", [key, reference "actor_id" "actors", createdAt], []⟩

def organizations : TableDefinition :=
  ⟨"organizations", [key, ⟨"name", .plain .text, [.notNull, .unique]⟩], []⟩

def members : TableDefinition :=
  ⟨"organization_members",
    [reference "organization_id" "organizations", reference "actor_id" "actors"],
    [.primaryKey ["organization_id", "actor_id"]]⟩

def templates : TableDefinition :=
  ⟨"permission_templates",
    [key, text "subject", text "action", flag "dictionary_default" "FALSE",
      flag "perspective_default" "FALSE"],
    [.unique ["subject", "action"]]⟩

def exclusiveScope : Expr :=
  .either
    (.group (.all (.bare "is_override")
      [.isNull (.bare "subject_client_id"), .isNull (.bare "subject_object_id")]))
    (.group (.both (.negation (.bare "is_override")) (.isNotNull (.bare "subject_object_id"))))

def grants : TableDefinition :=
  ⟨"permission_grants",
    [key, reference "template_id" "permission_templates", flag "is_override" "FALSE",
      ⟨"subject_client_id", .plain .bigint, []⟩, ⟨"subject_object_id", .plain .bigint, []⟩],
    [.check "exclusive_scope" exclusiveScope]⟩

def actorGrants : TableDefinition :=
  ⟨"actor_grants", [reference "actor_id" "actors", reference "grant_id" "permission_grants"],
    [.primaryKey ["actor_id", "grant_id"]]⟩

def organizationGrants : TableDefinition :=
  ⟨"organization_grants",
    [reference "organization_id" "organizations", reference "grant_id" "permission_grants"],
    [.primaryKey ["organization_id", "grant_id"]]⟩

def visibility : TableDefinition :=
  ⟨"subject_visibility", [number "client_id", number "object_id", text "state"],
    [.primaryKey ["client_id", "object_id"]]⟩

/-- One grant for each template and scope. Null numbers do not collide in an
index, so the key has a number in their place. -/
def uniqueScope : IndexDefinition :=
  ⟨"idx_grants_unique_scope", "permission_grants", true,
    [.bare "template_id", .bare "is_override", .coalesce (.bare "subject_client_id") (.number (-1)),
      .coalesce (.bare "subject_object_id") (.number (-1))]⟩

def membersByActor : IndexDefinition :=
  ⟨"idx_members_actor", "organization_members", false, [.bare "actor_id"]⟩

def grantsByScope : IndexDefinition :=
  ⟨"idx_grants_scope", "permission_grants", false,
    [.bare "template_id", .bare "subject_object_id", .bare "subject_client_id"]⟩

/-- The definitions in the order in which they depend on each other. -/
def definitions : List Statement :=
  [.createTable actors, .createTable sessions, .createTable organizations, .createTable members,
    .createTable templates, .createTable grants, .createTable actorGrants,
    .createTable organizationGrants, .createTable visibility, .createIndex uniqueScope,
    .createIndex membersByActor, .createIndex grantsByScope]

end Schema

/-- Creates what is missing of the schema and stops at the first statement that
the server refuses. -/
def migrate : Conversation DatabaseError Unit := do
  Schema.definitions.forM fun definition => discard (send definition [])
  ExceptT.lift (Dialogue.emit (.migrationsApplied Schema.definitions.length))

end AccessGrants.Database
