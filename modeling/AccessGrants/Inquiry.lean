import AccessGrants.Store.Request

/-!
Inquiries: computations that read a store and stop at the first read that the
store refuses. The wording of the refusal becomes the reason of the failure.
-/

namespace AccessGrants

/-- A computation that asks a store for reads and may fail. -/
abbrev Inquiry (α : Type) : Type := ExceptT CheckError (Dialogue Read Read.Answer) α

namespace Inquiry

def read (question : Read) : Inquiry question.Result :=
  ExceptT.mk (.ask question fun answer => .done (answer.mapError .ofStorage))

def report (event : Event) : Inquiry Unit :=
  ExceptT.lift (Dialogue.emit event)

def actorForSession (session : SessionId) : Inquiry (Option Actor) :=
  read (.actorForSession session)

def actorGrants (actor : ActorId) (subject : Option String) : Inquiry (List Grant) :=
  read (.actorGrants actor subject)

def organizationGrants (actor : ActorId) (subject : Option String) : Inquiry (List Grant) :=
  read (.organizationGrants actor subject)

def subjectGrants (subject : String) (target : Target) : Inquiry (List Grant) :=
  read (.subjectGrants subject target)

def grantExistsForActor (query : GrantQuery) (actor : ActorId) : Inquiry Bool :=
  read (.grantExistsForActor query actor)

def grantExistsForOrganizations (query : GrantQuery) (actor : ActorId) : Inquiry Bool :=
  read (.grantExistsForOrganizations query actor)

def visibility (id : InstanceId) : Inquiry (Option Visibility) :=
  read (.visibility id)

end Inquiry

end AccessGrants
