import AccessGrants.Scope

/-!
The rows of the permission model. Actors are accounts; a template names an
action on a subject type; a grant instantiates a template for a scope. A grant
carries the subject and the action of its template, so a check never has to
look at templates.
-/

namespace AccessGrants

structure Actor where
  id : ActorId
  active : Bool
  superuser : Bool
  deriving DecidableEq, Repr

/-- New accounts are active and have no special power. -/
def Actor.new (id : ActorId) : Actor := ⟨id, true, false⟩

/-- The kinds of subject instances whose creation attaches default templates. -/
inductive InstanceKind where
  | dictionary
  | perspective
  deriving DecidableEq, Repr

def InstanceKind.name : InstanceKind → String
  | .dictionary => "Dictionary"
  | .perspective => "Perspective"

structure Template where
  id : TemplateId
  subject : String
  action : String
  dictionaryDefault : Bool
  perspectiveDefault : Bool
  deriving DecidableEq, Repr

/-- A template that is a default for the given kinds; naming a kind twice is
naming it once. -/
def Template.new (id : TemplateId) (subject action : String) (defaults : List InstanceKind) :
    Template where
  id := id
  subject := subject
  action := action
  dictionaryDefault := defaults.contains .dictionary
  perspectiveDefault := defaults.contains .perspective

def Template.isDefaultFor (template : Template) : InstanceKind → Bool
  | .dictionary => template.dictionaryDefault
  | .perspective => template.perspectiveDefault

structure Grant where
  id : GrantId
  template : TemplateId
  subject : String
  action : String
  scope : Scope
  deriving DecidableEq, Repr

def Grant.ofTemplate (id : GrantId) (template : Template) (scope : Scope) : Grant :=
  ⟨id, template.id, template.subject, template.action, scope⟩

/-- Is there a grant for exactly this action, subject type and target? -/
structure GrantQuery where
  subject : String
  action : String
  target : Target
  deriving DecidableEq, Repr

def GrantQuery.admits (query : GrantQuery) (grant : Grant) : Bool :=
  grant.subject == query.subject && grant.action == query.action &&
    grant.scope.covers query.target

/-- A request to be decided: may this session do this to that? -/
structure Request where
  session : Option SessionId
  action : String
  subject : String
  target : Target
  deriving DecidableEq, Repr

end AccessGrants
