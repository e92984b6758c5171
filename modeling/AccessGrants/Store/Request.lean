import AccessGrants.Dialogue
import AccessGrants.Visibility

/-!
What can be asked of a store. Reads are the questions of the evaluators, writes
the operations that build the permission model; each has its own type of
result, and each may be refused. A store is anything that answers them.
-/

namespace AccessGrants

inductive Read where
  | actorForSession (session : SessionId)
  /-- Grants held by the actor itself, of one subject type if one is given. -/
  | actorGrants (actor : ActorId) (subject : Option String)
  /-- Grants held by the organizations that the actor is a member of. -/
  | organizationGrants (actor : ActorId) (subject : Option String)
  /-- Every grant of the subject type whose scope covers the target. -/
  | subjectGrants (subject : String) (target : Target)
  | grantExistsForActor (query : GrantQuery) (actor : ActorId)
  | grantExistsForOrganizations (query : GrantQuery) (actor : ActorId)
  | visibility (id : InstanceId)
  deriving DecidableEq, Repr

abbrev Read.Result : Read → Type
  | .actorForSession _ => Option Actor
  | .actorGrants _ _ => List Grant
  | .organizationGrants _ _ => List Grant
  | .subjectGrants _ _ => List Grant
  | .grantExistsForActor _ _ => Bool
  | .grantExistsForOrganizations _ _ => Bool
  | .visibility _ => Option Visibility

abbrev Read.Answer (read : Read) : Type := Except StorageError read.Result

/-- The write side. Rows are made and linked and never removed. -/
inductive Write where
  | createActor
  | setActorActive (actor : ActorId) (active : Bool)
  | setActorSuperuser (actor : ActorId) (superuser : Bool)
  | openSession (actor : ActorId)
  | createOrganization (name : String)
  | addMember (organization : OrganizationId) (actor : ActorId)
  | createTemplate (subject action : String) (defaults : List InstanceKind)
  | defaultTemplates (kind : InstanceKind)
  | createGrant (template : TemplateId) (scope : Scope)
  /-- Attaches the default templates of a kind, instantiated for one instance,
  to the owner of the instance. -/
  | provisionDefaults (kind : InstanceKind) (id : InstanceId) (owner : ActorId)
  | assignToActor (grant : GrantId) (actor : ActorId)
  | assignToOrganization (grant : GrantId) (organization : OrganizationId)
  | setVisibility (id : InstanceId) (state : Visibility)
  deriving DecidableEq, Repr

abbrev Write.Result : Write → Type
  | .createActor => Actor
  | .setActorActive _ _ => Unit
  | .setActorSuperuser _ _ => Unit
  | .openSession _ => SessionId
  | .createOrganization _ => OrganizationId
  | .addMember _ _ => Unit
  | .createTemplate _ _ _ => Template
  | .defaultTemplates _ => List Template
  | .createGrant _ _ => Grant
  | .provisionDefaults _ _ _ => List Grant
  | .assignToActor _ _ => Unit
  | .assignToOrganization _ _ => Unit
  | .setVisibility _ _ => Unit

abbrev Write.Answer (write : Write) : Type := Except StorageError write.Result

end AccessGrants
