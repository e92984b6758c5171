import AccessGrants.Inquiry
import AccessGrants.Policy

/-!
The direct evaluator: it never collects tokens but asks whether a grant exists
for exactly this request. Its steps are ordered so that a superuser needs no
grant, a public instance needs no activation, and an organization is asked only
after the actor itself.
-/

namespace AccessGrants.Direct

def publiclyVisible (action : String) : Target → Inquiry Bool
  | .composite id =>
    if Policy.isVisibilityAction action then do
      let state ← Inquiry.visibility id
      return state.any (Policy.visibilityGrants action)
    else return false
  | _ => return false

def checkAnonymous (policy : Policy) (request : Request) : Inquiry Bool :=
  if policy.grantsAnonymously request.subject then publiclyVisible request.action request.target
  else return false

def checkGrants (actor : Actor) (request : Request) : Inquiry Bool :=
  let query : GrantQuery := ⟨request.subject, request.action, request.target⟩
  if !Policy.activationAllows actor request.action then return false
  else do
    if ← Inquiry.grantExistsForActor query actor.id then return true
    else if !Policy.inheritsThroughOrganizations request.target then return false
    else Inquiry.grantExistsForOrganizations query actor.id

def checkActor (policy : Policy) (actor : Actor) (request : Request) : Inquiry Bool :=
  if actor.superuser then return true
  else if policy.grantsPublicly request.subject then do
    if ← publiclyVisible request.action request.target then return true
    else checkGrants actor request
  else checkGrants actor request

def check (policy : Policy) (request : Request) : Inquiry Bool :=
  match request.session with
  | none => checkAnonymous policy request
  | some session => do
    match ← Inquiry.actorForSession session with
    | none => checkAnonymous policy request
    | some actor => checkActor policy actor request

end AccessGrants.Direct
