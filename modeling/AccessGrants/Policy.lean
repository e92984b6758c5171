import AccessGrants.Collection.SortedSet
import AccessGrants.Model
import AccessGrants.Visibility

/-!
The rules that both evaluators share. A public instance can be viewed and
previewed by callers without an actor if its subject type is anonymous, and by
every actor if its subject type is public. A deactivated actor keeps viewing
only, and the right to create is never inherited from an organization.
-/

namespace AccessGrants

structure Policy where
  /-- Subject types whose public instances can be read without an actor. -/
  anonymousSubjects : SortedSet String
  /-- Subject types whose public instances can be read by every actor. -/
  publicSubjects : SortedSet String
  deriving DecidableEq

namespace Policy

def viewAction : String := "view"

def previewAction : String := "preview"

/-- The actions that a public instance grants without a grant. -/
def visibilityActions : List String := [viewAction, previewAction]

def isVisibilityAction (action : String) : Bool :=
  visibilityActions.contains action

def ofSubjects (anonymousSubjects publicSubjects : List String) : Policy :=
  ⟨.ofList anonymousSubjects, .ofList publicSubjects⟩

def standard : Policy :=
  ofSubjects ["perspective", "approve_entities", "lexical_entries_and_entities"]
    ["approve_entities"]

def grantsAnonymously (policy : Policy) (subject : String) : Bool :=
  policy.anonymousSubjects.contains subject

def grantsPublicly (policy : Policy) (subject : String) : Bool :=
  policy.publicSubjects.contains subject

/-- Deactivated accounts keep read access only. -/
def activationAllows (actor : Actor) (action : String) : Bool :=
  actor.active || action == viewAction

def visibilityGrants (action : String) (state : Visibility) : Bool :=
  state.isPublic && isVisibilityAction action

/-- Creation rights are never inherited from an organization. -/
def inheritsThroughOrganizations : Target → Bool
  | .creation => false
  | _ => true

end Policy

end AccessGrants
