import AccessGrants.Collection.Table
import AccessGrants.Store.Request

/-!
The permission model in memory. Rows are kept in tables under their
identifiers, links between rows in sorted sets. All identifiers come from one
counter, so no two rows of a store share a number, whatever their kinds.
-/

namespace AccessGrants

open Std

structure Link (source target : Entity) where
  source : RowId source
  target : RowId target
  deriving DecidableEq, Repr

namespace Link

variable {source target : Entity}

/-- Links are ordered by their source first. -/
instance : Ord (Link source target) where
  compare := compareLex (compareOn Link.source) (compareOn Link.target)

instance : TransOrd (Link source target) :=
  inferInstanceAs (TransCmp (compareLex (compareOn Link.source) (compareOn Link.target)))

instance : LawfulEqOrd (Link source target) where
  compare_self := fun {a} =>
    @ReflCmp.compare_self _ (compareLex (compareOn Link.source) (compareOn Link.target)) _ a
  eq_of_compare := fun {a b} h => by
    obtain ⟨hsource, htarget⟩ := compareLex_eq_eq.mp h
    have sameSource : a.source = b.source := LawfulEqOrd.eq_of_compare hsource
    have sameTarget : a.target = b.target := LawfulEqOrd.eq_of_compare htarget
    cases a
    cases b
    simp_all

end Link

structure Store where
  /-- How many identifiers have been given out. -/
  issued : Nat
  actors : Table ActorId Actor
  sessions : Table SessionId ActorId
  organizations : Table OrganizationId String
  members : SortedSet (Link .organization .actor)
  templates : Table TemplateId Template
  grants : Table GrantId Grant
  actorGrants : SortedSet (Link .actor .grant)
  organizationGrants : SortedSet (Link .organization .grant)
  visibility : Table InstanceId Visibility
  deriving DecidableEq

namespace Store

def empty : Store :=
  ⟨0, .empty, .empty, .empty, .empty, .empty, .empty, .empty, .empty, .empty⟩

def nextId (store : Store) {kind : Entity} : RowId kind :=
  ⟨Int64.ofNat (store.issued + 1)⟩

/-- The organizations that the actor is a member of, in ascending order. -/
def organizationsOf (store : Store) (actor : ActorId) : List OrganizationId :=
  (store.members.toList.filter fun link => link.target = actor).map Link.source

/-- The grants linked to the actor itself, in ascending order. -/
def heldByActor (store : Store) (actor : ActorId) : List Grant :=
  (store.actorGrants.toList.filter fun link => link.source = actor).filterMap fun link =>
    store.grants.get? link.target

/-- The grants linked to organizations of the actor, organization by
organization. -/
def heldByOrganizations (store : Store) (actor : ActorId) : List Grant :=
  let organizations := store.organizationsOf actor
  (store.organizationGrants.toList.filter fun link => link.source ∈ organizations).filterMap
    fun link => store.grants.get? link.target

/-- The grant that instantiates the template for exactly this scope. -/
def grantForScope? (store : Store) (template : TemplateId) (scope : Scope) : Option Grant :=
  store.grants.values.find? fun grant => grant.template = template && grant.scope = scope

/-- The templates that are defaults for the kind, in ascending order. -/
def defaultTemplates (store : Store) (kind : InstanceKind) : List Template :=
  store.templates.values.filter fun template => template.isDefaultFor kind

def subjectMatches (subject : Option String) (grant : Grant) : Bool :=
  match subject with
  | none => true
  | some wanted => grant.subject == wanted

end Store

end AccessGrants
