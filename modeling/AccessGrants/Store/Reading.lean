import AccessGrants.Store.State

/-!
Reading a store. Every read is answered from one state, never fails and
changes nothing.
-/

namespace AccessGrants.Store

/-- A session leads to an actor when both its row and the actor's row exist. -/
def actorForSession (store : Store) (session : SessionId) : Option Actor :=
  (store.sessions.get? session).bind store.actors.get?

def actorGrantsOf (store : Store) (actor : ActorId) (subject : Option String) : List Grant :=
  (store.heldByActor actor).filter (subjectMatches subject)

def organizationGrantsOf (store : Store) (actor : ActorId) (subject : Option String) :
    List Grant :=
  (store.heldByOrganizations actor).filter (subjectMatches subject)

def subjectGrants (store : Store) (subject : String) (target : Target) : List Grant :=
  store.grants.values.filter fun grant => grant.subject == subject && grant.scope.covers target

def grantExistsForActor (store : Store) (query : GrantQuery) (actor : ActorId) : Bool :=
  (store.heldByActor actor).any query.admits

def grantExistsForOrganizations (store : Store) (query : GrantQuery) (actor : ActorId) : Bool :=
  (store.heldByOrganizations actor).any query.admits

def read (store : Store) : (read : Read) → read.Result
  | .actorForSession session => store.actorForSession session
  | .actorGrants actor subject => store.actorGrantsOf actor subject
  | .organizationGrants actor subject => store.organizationGrantsOf actor subject
  | .subjectGrants subject target => store.subjectGrants subject target
  | .grantExistsForActor query actor => store.grantExistsForActor query actor
  | .grantExistsForOrganizations query actor => store.grantExistsForOrganizations query actor
  | .visibility id => store.visibility.get? id

def answer (store : Store) (read : Read) : read.Answer :=
  .ok (store.read read)

end AccessGrants.Store
