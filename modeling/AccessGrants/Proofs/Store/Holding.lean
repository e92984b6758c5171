import AccessGrants.Proofs.Collection.Table
import AccessGrants.Store.Reading

/-!
Who holds a grant. A grant is stored when the table of grants has its row; an
actor holds it itself by a link of its own, and as a member when one and the
same organization has the actor as a member and a link to the grant. The
listings and the existence queries of a store are read off these relations.
-/

namespace AccessGrants.Store

def StoresGrant (store : Store) (grant : Grant) : Prop :=
  ∃ id, store.grants.get? id = some grant

def HoldsItself (store : Store) (actor : ActorId) (grant : Grant) : Prop :=
  ∃ id, (⟨actor, id⟩ : Link .actor .grant) ∈ store.actorGrants ∧
    store.grants.get? id = some grant

def HoldsAsMember (store : Store) (actor : ActorId) (grant : Grant) : Prop :=
  ∃ organization id, (⟨organization, actor⟩ : Link .organization .actor) ∈ store.members ∧
    (⟨organization, id⟩ : Link .organization .grant) ∈ store.organizationGrants ∧
    store.grants.get? id = some grant

def Holds (store : Store) (actor : ActorId) (grant : Grant) : Prop :=
  store.HoldsItself actor grant ∨ store.HoldsAsMember actor grant

variable {store : Store} {actor : ActorId} {grant : Grant}

theorem Holds.stored (h : store.Holds actor grant) : store.StoresGrant grant := by
  rcases h with ⟨id, _, hrow⟩ | ⟨_, id, _, _, hrow⟩
  · exact ⟨id, hrow⟩
  · exact ⟨id, hrow⟩

theorem mem_heldByActor :
    grant ∈ store.heldByActor actor ↔ store.HoldsItself actor grant := by
  simp only [heldByActor, List.mem_filterMap, List.mem_filter, decide_eq_true_eq]
  constructor
  · rintro ⟨⟨source, id⟩, ⟨hlink, rfl⟩, hrow⟩
    exact ⟨id, hlink, hrow⟩
  · rintro ⟨id, hlink, hrow⟩
    exact ⟨⟨actor, id⟩, ⟨hlink, rfl⟩, hrow⟩

theorem mem_organizationsOf {organization : OrganizationId} :
    organization ∈ store.organizationsOf actor ↔
      (⟨organization, actor⟩ : Link .organization .actor) ∈ store.members := by
  simp only [organizationsOf, List.mem_map, List.mem_filter, decide_eq_true_eq]
  constructor
  · rintro ⟨⟨source, target⟩, ⟨hlink, rfl⟩, rfl⟩
    exact hlink
  · intro hlink
    exact ⟨⟨organization, actor⟩, ⟨hlink, rfl⟩, rfl⟩

theorem mem_heldByOrganizations :
    grant ∈ store.heldByOrganizations actor ↔ store.HoldsAsMember actor grant := by
  simp only [heldByOrganizations, List.mem_filterMap, List.mem_filter, decide_eq_true_eq,
    mem_organizationsOf]
  constructor
  · rintro ⟨⟨organization, id⟩, ⟨hlink, hmember⟩, hrow⟩
    exact ⟨organization, id, hmember, hlink, hrow⟩
  · rintro ⟨organization, id, hmember, hlink, hrow⟩
    exact ⟨⟨organization, id⟩, ⟨hlink, hmember⟩, hrow⟩

theorem mem_subjectGrants {subject : String} {target : Target} :
    grant ∈ store.subjectGrants subject target ↔
      store.StoresGrant grant ∧ grant.subject = subject ∧
        grant.scope.covers target = true := by
  simp [subjectGrants, StoresGrant, Table.mem_values]

/-- A listing of one subject type, of the actor itself and of its
organizations taken together. -/
theorem mem_heldOfSubject {subject : String} :
    grant ∈ store.actorGrantsOf actor (some subject) ++
        store.organizationGrantsOf actor (some subject) ↔
      store.Holds actor grant ∧ grant.subject = subject := by
  simp only [actorGrantsOf, organizationGrantsOf, List.mem_append, List.mem_filter,
    subjectMatches, beq_iff_eq, mem_heldByActor, mem_heldByOrganizations, Holds]
  constructor
  · rintro (⟨hheld, hsubject⟩ | ⟨hheld, hsubject⟩)
    · exact ⟨Or.inl hheld, hsubject⟩
    · exact ⟨Or.inr hheld, hsubject⟩
  · rintro ⟨hheld | hheld, hsubject⟩
    · exact Or.inl ⟨hheld, hsubject⟩
    · exact Or.inr ⟨hheld, hsubject⟩

theorem grantExistsForActor_iff {query : GrantQuery} :
    store.grantExistsForActor query actor = true ↔
      ∃ grant, store.HoldsItself actor grant ∧ query.admits grant = true := by
  simp [grantExistsForActor, mem_heldByActor]

theorem grantExistsForOrganizations_iff {query : GrantQuery} :
    store.grantExistsForOrganizations query actor = true ↔
      ∃ grant, store.HoldsAsMember actor grant ∧ query.admits grant = true := by
  simp [grantExistsForOrganizations, mem_heldByOrganizations]

end AccessGrants.Store

namespace AccessGrants.GrantQuery

theorem admits_iff {query : GrantQuery} {grant : Grant} :
    query.admits grant = true ↔
      grant.subject = query.subject ∧ grant.action = query.action ∧
        grant.scope.covers query.target = true := by
  simp [admits, and_assoc]

end AccessGrants.GrantQuery
