import AccessGrants.Proofs.Store.Holding
import AccessGrants.Proofs.Store.Integrity

/-!
The existence queries and the listings of a store. Both filter the grants that
the links of a holder lead to, the queries by a whole request and the listings by
the subject type alone. So a query is true if the listing of its subject type has
a grant for its action and target. No link dangles, so neither of them passes
over a grant that is held.
-/

namespace AccessGrants.Store

variable {store : Store}

/-- What is listed for a holder, all of it or the grants of one subject type,
answers whether the holder has a grant for the query. -/
structure Settles (store : Store) (listing : Option String → List Grant) (query : GrantQuery)
    (answer : Bool) : Prop where
  answered : answer = true ↔ ∃ grant ∈ listing (some query.subject),
    grant.action = query.action ∧ grant.scope.covers query.target = true
  /-- Of the grants that are listed, those of the subject type that cover the
  target are also listed for the subject type. -/
  covered : ∀ grant,
    grant ∈ listing (some query.subject) ∧ grant.scope.covers query.target = true ↔
      grant ∈ listing none ∧ grant ∈ store.read (.subjectGrants query.subject query.target)
  restricted : ((listing none).filter fun grant => grant.subject == query.subject) =
    listing (some query.subject)

theorem any_admits_iff {held : List Grant} {query : GrantQuery} :
    held.any query.admits = true ↔ ∃ grant ∈ held.filter (subjectMatches (some query.subject)),
      grant.action = query.action ∧ grant.scope.covers query.target = true := by
  simp only [List.any_eq_true, List.mem_filter, subjectMatches, beq_iff_eq,
    GrantQuery.admits_iff, and_assoc]

theorem filter_subjectMatches_none (held : List Grant) :
    held.filter (subjectMatches none) = held :=
  List.filter_true held

/-- Grants that are stored settle every query about them. -/
theorem settles_of_stored {held : List Grant} (stored : ∀ grant ∈ held, store.StoresGrant grant)
    (query : GrantQuery) :
    store.Settles (fun subject => held.filter (subjectMatches subject)) query
      (held.any query.admits) where
  answered := any_admits_iff
  covered := by
    intro grant
    have hlisted : grant ∈ store.read (.subjectGrants query.subject query.target) ↔
        store.StoresGrant grant ∧ grant.subject = query.subject ∧
          grant.scope.covers query.target = true :=
      mem_subjectGrants
    rw [hlisted, filter_subjectMatches_none, List.mem_filter]
    simp only [subjectMatches, beq_iff_eq]
    constructor
    · rintro ⟨⟨hheld, hsubject⟩, hcovers⟩
      exact ⟨hheld, stored grant hheld, hsubject, hcovers⟩
    · rintro ⟨hheld, _, hsubject, hcovers⟩
      exact ⟨⟨hheld, hsubject⟩, hcovers⟩
  restricted := by
    rw [filter_subjectMatches_none]
    rfl

theorem Changes.linked {after : Store} (changes : Changes store after) (h : store.Linked) :
    after.Linked := by
  induction changes with
  | refl => exact h
  | tail _ change ih => exact change.linked ih

/-- No link of a store that comes about by writes dangles, however often the
counter has come round. -/
theorem linked_after (writes : List Write) : (empty.after writes).Linked :=
  Changes.linked (after_changes keyed_empty writes) linked_empty

/-- Links whose targets are stored lead to one grant each. -/
theorem map_id_filterMap_target {source : Entity} {links : List (Link source .grant)}
    (keyed : store.Keyed) (stored : ∀ link ∈ links, link.target ∈ store.grants) :
    (links.filterMap fun link => store.grants.get? link.target).map Grant.id =
      links.map Link.target := by
  induction links with
  | nil => rfl
  | cons link rest ih =>
      obtain ⟨hfirst, hrest⟩ := List.forall_mem_cons.mp stored
      obtain ⟨grant, hrow⟩ := hfirst
      have hcons : (link :: rest).filterMap (fun link => store.grants.get? link.target) =
          grant :: rest.filterMap fun link => store.grants.get? link.target :=
        List.filterMap_cons_some hrow
      rw [hcons, List.map_cons, List.map_cons, ih hrest, keyed.grants _ _ hrow]

/-- In every store that comes about by writes, an existence query is true exactly
if the listing of its subject type has a grant for its action and target, the
grants of that listing that cover the target are listed for the subject type, and
the unfiltered listing names the target of every link. -/
theorem existence_agrees_with_listings (writes : List Write) (actor : ActorId)
    (query : GrantQuery) :
    let store := empty.after writes
    (store.Settles (fun subject => store.read (.actorGrants actor subject)) query
        (store.read (.grantExistsForActor query actor)) ∧
      store.Settles (fun subject => store.read (.organizationGrants actor subject)) query
        (store.read (.grantExistsForOrganizations query actor))) ∧
    (store.read (.actorGrants actor none)).map Grant.id =
      (store.actorGrants.toList.filter fun link => link.source = actor).map Link.target ∧
    (store.read (.organizationGrants actor none)).map Grant.id =
      (store.organizationGrants.toList.filter fun link =>
        link.source ∈ store.organizationsOf actor).map Link.target := by
  intro store
  have hkeyed := keyed_after writes
  have hlinked := linked_after writes
  refine ⟨⟨settles_of_stored ?_ query, settles_of_stored ?_ query⟩, ?_, ?_⟩
  · exact fun grant hheld => Holds.stored (Or.inl (mem_heldByActor.mp hheld))
  · exact fun grant hheld => Holds.stored (Or.inr (mem_heldByOrganizations.mp hheld))
  · have hown : store.read (.actorGrants actor none) = store.heldByActor actor :=
      filter_subjectMatches_none _
    rw [hown]
    refine map_id_filterMap_target hkeyed fun link hlink => ?_
    exact (hlinked.actorGrants link (List.mem_of_mem_filter hlink)).2
  · have hinherited : store.read (.organizationGrants actor none) =
        store.heldByOrganizations actor :=
      filter_subjectMatches_none _
    rw [hinherited]
    refine map_id_filterMap_target hkeyed fun link hlink => ?_
    exact (hlinked.organizationGrants link (List.mem_of_mem_filter hlink)).2

/-- A member without grants of its own. -/
example :
    let store := empty.after [.createActor, .createOrganization "editors", .addMember ⟨2⟩ ⟨1⟩,
      .createTemplate "perspective" "edit" [], .createGrant ⟨3⟩ (.object 1),
      .assignToOrganization ⟨4⟩ ⟨2⟩]
    let query : GrantQuery := ⟨"perspective", "edit", .single 1⟩
    store.read (.grantExistsForActor query ⟨1⟩) = false ∧
      store.read (.grantExistsForOrganizations query ⟨1⟩) = true := by
  decide

end AccessGrants.Store
