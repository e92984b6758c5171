import AccessGrants.Proofs.Collection.SortedSet
import AccessGrants.Proofs.Store.Change
import AccessGrants.Proofs.Store.Consultation
import AccessGrants.Service

/-!
Calls that link two rows. Whether such a call is accepted depends on the rows that
are stored and not on the links, and an accepted one puts its link into a set. So
calls of several sides merge without loss: in whatever order they come, and however
often, each is answered as if it came first, and the store that they leave has the
links it had and those of the accepted calls.
-/

namespace AccessGrants.Store

inductive Linking where
  | member (organization : OrganizationId) (actor : ActorId)
  | actorGrant (grant : GrantId) (actor : ActorId)
  | organizationGrant (grant : GrantId) (organization : OrganizationId)
  deriving DecidableEq, Repr

def Linking.write : Linking → Write
  | .member organization actor => .addMember organization actor
  | .actorGrant grant actor => .assignToActor grant actor
  | .organizationGrant grant organization => .assignToOrganization grant organization

def link (store : Store) : Linking → Written Unit
  | .member organization actor => store.addMember organization actor
  | .actorGrant grant actor => store.assignToActor grant actor
  | .organizationGrant grant organization => store.assignToOrganization grant organization

/-- The store after calls, refused ones included. -/
def afterLinking (store : Store) (calls : List Linking) : Store :=
  store.after (calls.map Linking.write)

/-- The answers to calls, in their order. -/
def answers (store : Store) : List Linking → List (Except StorageError Unit)
  | [] => []
  | call :: rest => (store.link call).1 :: answers (store.link call).2 rest

/-- The store without its links. -/
def unlinked (store : Store) : Store :=
  { store with members := .empty, actorGrants := .empty, organizationGrants := .empty }

def Accepts (store : Store) (call : Linking) : Prop :=
  (store.link call).1 = .ok ()

/-- The link that a call is for is there. -/
def HasLink (store : Store) : Linking → Prop
  | .member organization actor => ⟨organization, actor⟩ ∈ store.members
  | .actorGrant grant actor => ⟨actor, grant⟩ ∈ store.actorGrants
  | .organizationGrant grant organization =>
    ⟨organization, grant⟩ ∈ store.organizationGrants

/-- A store that has its links from an earlier one and from the calls that the
earlier one accepts, and everything else from the earlier one. -/
structure Merges (store : Store) (calls : List Linking) (after : Store) : Prop where
  rows : after.unlinked = store.unlinked
  links : ∀ call, after.HasLink call ↔ store.HasLink call ∨ call ∈ calls ∧ store.Accepts call

variable {store : Store} {call later : Linking} {calls : List Linking}

section OneCall

/-- The complaint about the first of two rows that is missing. -/
def firstMissing? {source target : Entity} {ν μ : Type} (sources : Table (RowId source) ν)
    (targets : Table (RowId target) μ) (link : Link source target) : Option StorageError :=
  if !sources.contains link.source then some (.notFound link.source.label)
  else if !targets.contains link.target then some (.notFound link.target.label)
  else none

/-- What there is to complain about a call. No link is looked at. -/
def complaint? (store : Store) : Linking → Option StorageError
  | .member organization actor =>
    firstMissing? store.organizations store.actors ⟨organization, actor⟩
  | .actorGrant grant actor => firstMissing? store.grants store.actors ⟨grant, actor⟩
  | .organizationGrant grant organization =>
    firstMissing? store.grants store.organizations ⟨grant, organization⟩

/-- The store with the link of a call. -/
def joined (store : Store) : Linking → Store
  | .member organization actor =>
    { store with members := store.members.insert ⟨organization, actor⟩ }
  | .actorGrant grant actor =>
    { store with actorGrants := store.actorGrants.insert ⟨actor, grant⟩ }
  | .organizationGrant grant organization =>
    { store with organizationGrants := store.organizationGrants.insert ⟨organization, grant⟩ }

theorem attempt_eq {source target : Entity} {ν μ : Type} (sources : Table (RowId source) ν)
    (targets : Table (RowId target) μ) (link : Link source target) (store after : Store) :
    (if !sources.contains link.source then (.error (.notFound link.source.label), store)
      else if !targets.contains link.target then (.error (.notFound link.target.label), store)
      else (.ok (), after) : Written Unit) =
      match firstMissing? sources targets link with
      | some error => (.error error, store)
      | none => (.ok (), after) := by
  unfold firstMissing?
  split_ifs <;> rfl

/-- A call is refused with the complaint about it, or adds its link. -/
theorem link_eq (store : Store) (call : Linking) :
    store.link call =
      match store.complaint? call with
      | some error => (.error error, store)
      | none => (.ok (), store.joined call) := by
  cases call with
  | member organization actor => exact attempt_eq _ _ ⟨organization, actor⟩ _ _
  | actorGrant grant actor => exact attempt_eq _ _ ⟨grant, actor⟩ _ _
  | organizationGrant grant organization => exact attempt_eq _ _ ⟨grant, organization⟩ _ _

theorem link_of_accepted (h : store.complaint? call = none) :
    store.link call = (.ok (), store.joined call) := by
  rw [link_eq, h]

theorem link_of_refused {error : StorageError} (h : store.complaint? call = some error) :
    store.link call = (.error error, store) := by
  rw [link_eq, h]

theorem accepts_iff : store.Accepts call ↔ store.complaint? call = none := by
  rw [Accepts]
  cases h : store.complaint? call with
  | none => simp [link_of_accepted h]
  | some error => simp [link_of_refused h]

theorem unlinked_joined (call : Linking) : (store.joined call).unlinked = store.unlinked := by
  cases call <;> rfl

theorem complaint?_joined (call later : Linking) :
    (store.joined call).complaint? later = store.complaint? later := by
  cases call <;> cases later <;> rfl

theorem unlinked_link (call : Linking) : (store.link call).2.unlinked = store.unlinked := by
  cases h : store.complaint? call with
  | none =>
      rw [link_of_accepted h]
      exact unlinked_joined call
  | some error => rw [link_of_refused h]

theorem complaint?_link (call later : Linking) :
    (store.link call).2.complaint? later = store.complaint? later := by
  cases h : store.complaint? call with
  | none =>
      rw [link_of_accepted h]
      exact complaint?_joined call later
  | some error => rw [link_of_refused h]

/-- A call is answered after another one as it is before it. -/
theorem answer_link (call later : Linking) :
    ((store.link call).2.link later).1 = (store.link later).1 := by
  rw [link_eq, link_eq store later, complaint?_link]
  cases store.complaint? later with
  | none => rfl
  | some error => rfl

end OneCall

section Links

theorem hasLink_joined {other : Linking} :
    (store.joined call).HasLink other ↔ store.HasLink other ∨ other = call := by
  cases call <;> cases other <;> simp [joined, HasLink, SortedSet.mem_insert, or_comm, and_comm]

/-- A call adds its own link and no other, and only if it is accepted. -/
theorem hasLink_link {other : Linking} :
    (store.link call).2.HasLink other ↔
      store.HasLink other ∨ other = call ∧ store.Accepts call := by
  rw [accepts_iff]
  cases h : store.complaint? call with
  | none =>
      rw [link_of_accepted h, hasLink_joined]
      simp
  | some error =>
      rw [link_of_refused h]
      simp

theorem accepts_link : (store.link call).2.Accepts later ↔ store.Accepts later := by
  rw [Accepts, answer_link, Accepts]

/-- A store is its rows and its links. -/
theorem eq_of_links {first second : Store} (rows : first.unlinked = second.unlinked)
    (links : ∀ call, first.HasLink call ↔ second.HasLink call) : first = second := by
  have hmembers : first.members = second.members :=
    SortedSet.eq_of_mem_iff fun link => links (.member link.source link.target)
  have hactorGrants : first.actorGrants = second.actorGrants :=
    SortedSet.eq_of_mem_iff fun link => links (.actorGrant link.target link.source)
  have horganizationGrants : first.organizationGrants = second.organizationGrants :=
    SortedSet.eq_of_mem_iff fun link => links (.organizationGrant link.target link.source)
  have hwhole : ∀ store : Store, store = { store.unlinked with
      members := store.members
      actorGrants := store.actorGrants
      organizationGrants := store.organizationGrants } := fun _ => rfl
  rw [hwhole first, rows, hmembers, hactorGrants, horganizationGrants, ← hwhole second]

end Links

section Runs

theorem afterLinking_cons :
    store.afterLinking (call :: calls) = (store.link call).2.afterLinking calls := by
  cases call <;> rfl

/-- A run of calls does what its accepted calls do, all at once. -/
theorem merges_afterLinking (store : Store) (calls : List Linking) :
    store.Merges calls (store.afterLinking calls) := by
  -- The store that the rest runs from accepts what this one accepts.
  induction calls generalizing store with
  | nil => exact ⟨rfl, fun call => by simp [afterLinking, after]⟩
  | cons call rest ih =>
      obtain ⟨hrows, hlinks⟩ := ih (store.link call).2
      rw [← afterLinking_cons] at hrows hlinks
      refine ⟨hrows.trans (unlinked_link call), fun other => ?_⟩
      rw [hlinks, hasLink_link, accepts_link, List.mem_cons]
      constructor
      · rintro ((hold | ⟨rfl, haccepted⟩) | ⟨hlater, haccepted⟩)
        · exact Or.inl hold
        · exact Or.inr ⟨Or.inl rfl, haccepted⟩
        · exact Or.inr ⟨Or.inr hlater, haccepted⟩
      · rintro (hold | ⟨rfl | hlater, haccepted⟩)
        · exact Or.inl (Or.inl hold)
        · exact Or.inl (Or.inr ⟨rfl, haccepted⟩)
        · exact Or.inr ⟨hlater, haccepted⟩

/-- Every call of a run is answered as if it came first. -/
theorem answers_eq_map (store : Store) (calls : List Linking) :
    store.answers calls = calls.map fun call => (store.link call).1 := by
  induction calls generalizing store with
  | nil => rfl
  | cons call rest ih =>
      rw [answers, ih, List.map_cons]
      exact congrArg _ (List.map_congr_left fun later _ => answer_link call later)

theorem merged_eq {others : List Linking} {first second : Store}
    (same : ∀ call, call ∈ calls ↔ call ∈ others) (h : store.Merges calls first)
    (h' : store.Merges others second) : first = second := by
  refine eq_of_links (h.rows.trans h'.rows.symm) fun call => ?_
  rw [h.links, h'.links, same]

end Runs

/-- Two runs of the same calls, however ordered and repeated. Each call is answered
in both as it would be by the store they start from, and both leave one store, which
lost no link and gained those of the accepted calls. So nothing that is read from it
and no decision tells the runs apart. -/
theorem links_merge_in_any_order (store : Store) {calls others : List Linking}
    (same : ∀ call, call ∈ calls ↔ call ∈ others) :
    store.answers calls = calls.map (fun call => (store.link call).1) ∧
      store.answers others = others.map (fun call => (store.link call).1) ∧
      store.Merges calls (store.afterLinking calls) ∧
      store.afterLinking others = store.afterLinking calls ∧
      (∀ read : Read,
        (store.afterLinking others).answer read = (store.afterLinking calls).answer read) ∧
      ∀ (service : Service) (input : CheckInput),
        (store.afterLinking others).consult (service.checkPermission input).run =
          (store.afterLinking calls).consult (service.checkPermission input).run := by
  have hmerges : store.Merges calls (store.afterLinking calls) := merges_afterLinking store calls
  have heq : store.afterLinking others = store.afterLinking calls :=
    (merged_eq same hmerges (merges_afterLinking store others)).symm
  refine ⟨answers_eq_map store calls, answers_eq_map store others, hmerges, heq, ?_, ?_⟩
  · intro read
    rw [heq]
  · intro service input
    rw [heq]

/-- An actor, an organization and a grant. -/
def linkable : Store :=
  empty.after [.createActor, .createOrganization "editors",
    .createTemplate "perspective" "view" [], .createGrant ⟨3⟩ .override]

theorem links_of_one_actor :
    let calls : List Linking :=
      [.member ⟨2⟩ ⟨1⟩, .organizationGrant ⟨4⟩ ⟨5⟩, .actorGrant ⟨4⟩ ⟨1⟩]
    let others : List Linking :=
      [.actorGrant ⟨4⟩ ⟨1⟩, .member ⟨2⟩ ⟨1⟩, .actorGrant ⟨4⟩ ⟨1⟩, .organizationGrant ⟨4⟩ ⟨5⟩]
    (∀ call, call ∈ calls ↔ call ∈ others) ∧
      linkable.answers calls = [.ok (), .error (.notFound "organization 5"), .ok ()] ∧
      linkable.Merges calls (linkable.afterLinking calls) ∧
      linkable.afterLinking others = linkable.afterLinking calls := by
  intro calls others
  have same : ∀ call, call ∈ calls ↔ call ∈ others := by
    intro call
    simp only [calls, others, List.mem_cons, List.not_mem_nil]
    tauto
  obtain ⟨hanswers, -, hmerges, heq, -⟩ := links_merge_in_any_order linkable same
  exact ⟨same, hanswers.trans (by decide), hmerges, heq⟩

end AccessGrants.Store
