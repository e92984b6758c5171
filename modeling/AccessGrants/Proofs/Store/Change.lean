import AccessGrants.Proofs.Collection.Table
import AccessGrants.Store.Writing
import Mathlib.Logic.Relation

/-!
The changes that stores go through. A change writes one row or one link, after
everything that it refers to was found and nothing that it would repeat was. A
write is a chain of changes, so what every change keeps, every store that comes
about has.
-/

namespace AccessGrants

/-- Both ends of the link are stored. -/
def Link.Joins {source target : Entity} {ν μ : Type} (sources : Table (RowId source) ν)
    (targets : Table (RowId target) μ) (link : Link source target) : Prop :=
  link.source ∈ sources ∧ link.target ∈ targets

namespace Store

def HasOrganization (store : Store) (name : String) : Prop :=
  ∃ id, store.organizations.get? id = some name

def HasTemplate (store : Store) (subject action : String) : Prop :=
  ∃ id row, store.templates.get? id = some row ∧ row.subject = subject ∧ row.action = action

def HasGrant (store : Store) (template : TemplateId) (scope : Scope) : Prop :=
  ∃ id row, store.grants.get? id = some row ∧ row.template = template ∧ row.scope = scope

inductive Change (store : Store) : Store → Prop where
  | actorAdded :
      Change store { store with
        issued := store.issued + 1
        actors := store.actors.insert store.nextId (Actor.new store.nextId) }
  | actorFlagged {id : ActorId} {row : Actor} (active superuser : Bool)
      (stored : store.actors.get? id = some row) :
      Change store { store with actors := store.actors.insert id ⟨row.id, active, superuser⟩ }
  | sessionAdded {actor : ActorId} (stored : actor ∈ store.actors) :
      Change store { store with
        issued := store.issued + 1
        sessions := store.sessions.insert store.nextId actor }
  | organizationAdded {name : String} (free : ¬ store.HasOrganization name) :
      Change store { store with
        issued := store.issued + 1
        organizations := store.organizations.insert store.nextId name }
  | templateAdded {subject action : String} (defaults : List InstanceKind)
      (free : ¬ store.HasTemplate subject action) :
      Change store { store with
        issued := store.issued + 1
        templates := store.templates.insert store.nextId
          (Template.new store.nextId subject action defaults) }
  | grantAdded {template : Template} {scope : Scope}
      (stored : store.templates.get? template.id = some template)
      (free : ¬ store.HasGrant template.id scope) :
      Change store { store with
        issued := store.issued + 1
        grants := store.grants.insert store.nextId
          (Grant.ofTemplate store.nextId template scope) }
  | memberLinked (link : Link .organization .actor)
      (stored : link.Joins store.organizations store.actors) :
      Change store { store with members := store.members.insert link }
  | actorGrantLinked (link : Link .actor .grant)
      (stored : link.Joins store.actors store.grants) :
      Change store { store with actorGrants := store.actorGrants.insert link }
  | organizationGrantLinked (link : Link .organization .grant)
      (stored : link.Joins store.organizations store.grants) :
      Change store { store with organizationGrants := store.organizationGrants.insert link }
  | visibilitySet (id : InstanceId) (state : Visibility) :
      Change store { store with visibility := store.visibility.insert id state }

/-- Any number of changes, one after the other. -/
abbrev Changes : Store → Store → Prop := Relation.ReflTransGen Change

/-- Rows that carry an identifier are stored under it. -/
structure Keyed (store : Store) : Prop where
  actors : store.actors.All fun id row => row.id = id
  templates : store.templates.All fun id row => row.id = id
  grants : store.grants.All fun id row => row.id = id

theorem keyed_empty : empty.Keyed :=
  ⟨Table.all_empty, Table.all_empty, Table.all_empty⟩

theorem Change.keyed {store after : Store} (change : Change store after) (h : store.Keyed) :
    after.Keyed := by
  cases change with
  | actorAdded => exact { h with actors := h.actors.insert rfl }
  | actorFlagged active superuser stored =>
      have hrow := h.actors _ _ stored
      exact { h with actors := h.actors.insert hrow }
  | sessionAdded => exact { h with }
  | organizationAdded => exact { h with }
  | templateAdded => exact { h with templates := h.templates.insert rfl }
  | grantAdded => exact { h with grants := h.grants.insert rfl }
  | memberLinked => exact { h with }
  | actorGrantLinked => exact { h with }
  | organizationGrantLinked => exact { h with }
  | visibilitySet => exact { h with }

theorem Change.issued_le {store after : Store} (change : Change store after) :
    store.issued ≤ after.issued := by
  cases change with
  | actorAdded | sessionAdded | organizationAdded | templateAdded | grantAdded =>
      exact Nat.le_succ _
  | actorFlagged | memberLinked | actorGrantLinked | organizationGrantLinked | visibilitySet =>
      exact Nat.le_refl _

theorem Changes.keyed {store after : Store} (changes : Changes store after) (h : store.Keyed) :
    after.Keyed := by
  induction changes with
  | refl => exact h
  | tail _ change ih => exact change.keyed ih

/-- The store that a sequence of writes leaves, of which any number may be refused. -/
def after (store : Store) (writes : List Write) : Store :=
  writes.foldl (fun store write => (store.write write).2) store

end Store

end AccessGrants
