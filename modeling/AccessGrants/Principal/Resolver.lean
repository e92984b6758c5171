import AccessGrants.Inquiry
import AccessGrants.Policy
import AccessGrants.Principal.Resolution

/-!
Resolving a session to the tokens that its actor holds. Without a subject only
the superuser's token is looked at. With a subject the actor holds, besides
the token of every resolved caller, one token for each grant of that subject
type that it holds itself or through an organization, as far as its activation
lets it use them. Nothing is remembered between two resolutions.
-/

namespace AccessGrants.Principal

/-- The tokens that an actor holds without looking at grants. -/
def reserved (actor : Actor) : PrincipalSet :=
  if actor.superuser then SortedSet.empty.insert Token.admin else SortedSet.empty

/-- Adds the tokens of the grants that the actor's activation lets it use. -/
def addGrants (actor : Actor) (grants : List Grant) (held : PrincipalSet) : PrincipalSet :=
  (grants.filter fun grant => Policy.activationAllows actor grant.action).foldl
    (fun held grant => held.insert (Token.ofGrant grant)) held

def resolveActor (actor : Actor) : Option String → Inquiry Resolution
  | none => return .resolved actor (reserved actor)
  | some subject => do
    let direct ← Inquiry.actorGrants actor.id (some subject)
    let inherited ← Inquiry.organizationGrants actor.id (some subject)
    let principals :=
      addGrants actor (direct ++ inherited) ((reserved actor).insert Token.authenticated)
    Inquiry.report (.principalsResolved actor.id subject principals.size)
    return .resolved actor principals

def resolve (session : Option SessionId) (subject : Option String) : Inquiry Resolution :=
  match session with
  | none => return .anonymous
  | some session => do
    match ← Inquiry.actorForSession session with
    | some actor => resolveActor actor subject
    | none =>
      Inquiry.report (.sessionUnresolved session)
      return .invalidSession session

end AccessGrants.Principal
