import AccessGrants.Proofs.Collection.Table
import AccessGrants.Store.Writing

/-!
What a write leaves alone. A store is made of nine parts, a write has a
footprint of at most two of them, and every other part is the same after the
write, refused or not. Within its footprint a write adds nothing but what its
arguments name: a link between the two rows, a link of the owner, the session
that it answers.
-/

namespace AccessGrants

/-- The tables and the sets of links that a store is made of, the counter aside. -/
inductive Store.Part where
  | actors
  | sessions
  | organizations
  | members
  | templates
  | grants
  | actorGrants
  | organizationGrants
  | visibility
  deriving DecidableEq

/-- The parts of a store that a write may change. -/
def Write.footprint : Write → List Store.Part
  | .createActor | .setActorActive _ _ | .setActorSuperuser _ _ => [.actors]
  | .openSession _ => [.sessions]
  | .createOrganization _ => [.organizations]
  | .addMember _ _ => [.members]
  | .createTemplate _ _ _ => [.templates]
  | .defaultTemplates _ => []
  | .createGrant _ _ => [.grants]
  | .provisionDefaults _ _ _ => [.grants, .actorGrants]
  | .assignToActor _ _ => [.actorGrants]
  | .assignToOrganization _ _ => [.organizationGrants]
  | .setVisibility _ _ => [.visibility]

namespace Store

def Part.Content : Part → Type
  | .actors => Table ActorId Actor
  | .sessions => Table SessionId ActorId
  | .organizations => Table OrganizationId String
  | .members => SortedSet (Link .organization .actor)
  | .templates => Table TemplateId Template
  | .grants => Table GrantId Grant
  | .actorGrants => SortedSet (Link .actor .grant)
  | .organizationGrants => SortedSet (Link .organization .grant)
  | .visibility => Table InstanceId Visibility

def content (store : Store) : (part : Part) → part.Content
  | .actors => store.actors
  | .sessions => store.sessions
  | .organizations => store.organizations
  | .members => store.members
  | .templates => store.templates
  | .grants => store.grants
  | .actorGrants => store.actorGrants
  | .organizationGrants => store.organizationGrants
  | .visibility => store.visibility

variable {store : Store} {write : Write} {part : Part}

theorem content_grantFor {template : Template} {scope : Scope} (untouched : part ≠ .grants) :
    (store.grantFor template scope).2.content part = store.content part := by
  unfold grantFor
  split
  · rfl
  · cases part <;> trivial

theorem content_attach {owner : ActorId} {scope : Scope} {templates : List Template}
    (untouched : part ∉ [Part.grants, Part.actorGrants]) :
    (attach owner scope templates store).2.content part = store.content part := by
  have hgrants : part ≠ .grants := fun h => untouched (by simp [h])
  -- Each round starts from the store of the round before.
  induction templates generalizing store with
  | nil => rfl
  | cons template rest ih =>
      have hlinked : ({ (store.grantFor template scope).2 with
          actorGrants := (store.grantFor template scope).2.actorGrants.insert
            ⟨owner, (store.grantFor template scope).1.id⟩ } : Store).content part =
          (store.grantFor template scope).2.content part := by
        cases part with
        | actorGrants => simp at untouched
        | _ => rfl
      exact ih.trans (hlinked.trans (content_grantFor hgrants))

/-- A write leaves everything outside its footprint as it is. -/
theorem content_write (untouched : part ∉ write.footprint) :
    (store.write write).2.content part = store.content part := by
  cases write with
  | provisionDefaults kind id owner =>
      simp only [Store.write, provisionDefaults]
      split
      · exact content_attach untouched
      · rfl
  | _ =>
      simp only [Write.footprint, List.mem_singleton] at untouched
      simp only [Store.write, createActor, setActorActive, setActorSuperuser, updateActor,
        openSession, createOrganization, addMember, createTemplate, createGrant, addGrant,
        assignToActor, assignToOrganization, setVisibility]
      repeat' split
      all_goals cases part <;> trivial

section Additions

theorem mem_members_addMember {organization : OrganizationId} {actor : ActorId}
    {link : Link .organization .actor} (h : link ∈ (store.addMember organization actor).2.members) :
    link ∈ store.members ∨ link = ⟨organization, actor⟩ := by
  unfold addMember at h
  repeat' split at h
  · exact Or.inl h
  · exact Or.inl h
  · exact (SortedSet.mem_insert.mp h).symm

theorem mem_actorGrants_assignToActor {grant : GrantId} {actor : ActorId}
    {link : Link .actor .grant} (h : link ∈ (store.assignToActor grant actor).2.actorGrants) :
    link ∈ store.actorGrants ∨ link = ⟨actor, grant⟩ := by
  unfold assignToActor at h
  repeat' split at h
  · exact Or.inl h
  · exact Or.inl h
  · exact (SortedSet.mem_insert.mp h).symm

theorem mem_organizationGrants_assignToOrganization {grant : GrantId}
    {organization : OrganizationId} {link : Link .organization .grant}
    (h : link ∈ (store.assignToOrganization grant organization).2.organizationGrants) :
    link ∈ store.organizationGrants ∨ link = ⟨organization, grant⟩ := by
  unfold assignToOrganization at h
  repeat' split at h
  · exact Or.inl h
  · exact Or.inl h
  · exact (SortedSet.mem_insert.mp h).symm

/-- Every link that is made on the way is one of the owner. -/
theorem mem_actorGrants_attach {owner : ActorId} {scope : Scope} {templates : List Template}
    {link : Link .actor .grant} (h : link ∈ (attach owner scope templates store).2.actorGrants) :
    link ∈ store.actorGrants ∨ link.source = owner := by
  induction templates generalizing store with
  | nil => exact Or.inl h
  | cons template rest ih =>
      rcases ih h with hlinked | howner
      · rcases SortedSet.mem_insert.mp hlinked with rfl | hold
        · exact Or.inr rfl
        · have huntouched : Part.actorGrants ≠ .grants := by decide
          have hsame : (store.grantFor template scope).2.actorGrants = store.actorGrants :=
            content_grantFor huntouched
          exact Or.inl (hsame ▸ hold)
      · exact Or.inr howner

/-- A new member comes of the write that names it. -/
theorem mem_members_write {link : Link .organization .actor}
    (h : link ∈ (store.write write).2.members) :
    link ∈ store.members ∨ write = .addMember link.source link.target := by
  by_cases htouched : Part.members ∈ write.footprint
  · cases write with
    | addMember organization actor =>
        rcases mem_members_addMember h with hold | rfl
        · exact Or.inl hold
        · exact Or.inr rfl
    | _ => simp [Write.footprint] at htouched
  · have hsame : (store.write write).2.members = store.members := content_write htouched
    exact Or.inl (hsame ▸ h)

/-- A new grant of an organization comes of the write that names both. -/
theorem mem_organizationGrants_write {link : Link .organization .grant}
    (h : link ∈ (store.write write).2.organizationGrants) :
    link ∈ store.organizationGrants ∨ write = .assignToOrganization link.target link.source := by
  by_cases htouched : Part.organizationGrants ∈ write.footprint
  · cases write with
    | assignToOrganization grant organization =>
        rcases mem_organizationGrants_assignToOrganization h with hold | rfl
        · exact Or.inl hold
        · exact Or.inr rfl
    | _ => simp [Write.footprint] at htouched
  · have hsame : (store.write write).2.organizationGrants = store.organizationGrants :=
      content_write htouched
    exact Or.inl (hsame ▸ h)

/-- A new grant of an actor comes of an assignment to it or of provisioning it
as an owner. -/
theorem mem_actorGrants_write {link : Link .actor .grant}
    (h : link ∈ (store.write write).2.actorGrants) :
    link ∈ store.actorGrants ∨ write = .assignToActor link.target link.source ∨
      ∃ kind id, write = .provisionDefaults kind id link.source := by
  by_cases htouched : Part.actorGrants ∈ write.footprint
  · cases write with
    | assignToActor grant actor =>
        rcases mem_actorGrants_assignToActor h with hold | rfl
        · exact Or.inl hold
        · exact Or.inr (Or.inl rfl)
    | provisionDefaults kind id owner =>
        simp only [Store.write, provisionDefaults] at h
        split at h
        · rcases mem_actorGrants_attach h with hold | rfl
          · exact Or.inl hold
          · exact Or.inr (Or.inr ⟨kind, id, rfl⟩)
        · exact Or.inl h
    | _ => simp [Write.footprint] at htouched
  · have hsame : (store.write write).2.actorGrants = store.actorGrants := content_write htouched
    exact Or.inl (hsame ▸ h)

/-- The row of a session changes when it is opened, and at no other time. -/
theorem get?_sessions_write (store : Store) (write : Write) (session : SessionId) :
    (store.write write).2.sessions.get? session = store.sessions.get? session ∨
      ∃ actor, write = .openSession actor ∧ (store.openSession actor).1 = .ok session := by
  by_cases htouched : Part.sessions ∈ write.footprint
  · cases write with
    | openSession actor =>
        simp only [Store.write, openSession]
        split
        · next hstored =>
            rw [Table.get?_insert]
            split
            · next hsession => exact Or.inr ⟨actor, rfl, by simp [hstored, hsession]⟩
            · exact Or.inl rfl
        · exact Or.inl rfl
    | _ => simp [Write.footprint] at htouched
  · have hsame : (store.write write).2.sessions = store.sessions := content_write htouched
    exact Or.inl (by rw [hsame])

theorem get?_actors_updateActor (id other : ActorId) (change : Actor → Actor) :
    (store.updateActor id change).2.actors.get? other = store.actors.get? other ∨ id = other := by
  unfold updateActor
  split
  · rw [Table.get?_insert]
    split
    · next hid => exact Or.inr hid
    · exact Or.inl rfl
  · exact Or.inl rfl

/-- The row of an actor changes when one of its flags is set, or when its number
is given out. -/
theorem get?_actors_write (store : Store) (write : Write) (id : ActorId) :
    (store.write write).2.actors.get? id = store.actors.get? id ∨
      (write = .createActor ∧ store.nextId = id) ∨
      ∃ flag, write = .setActorActive id flag ∨ write = .setActorSuperuser id flag := by
  by_cases htouched : Part.actors ∈ write.footprint
  · cases write with
    | createActor =>
        have hrow : (store.write .createActor).2.actors.get? id =
            if store.nextId = id then some (Actor.new store.nextId) else store.actors.get? id :=
          Table.get?_insert
        rw [hrow]
        split
        · next hid => exact Or.inr (Or.inl ⟨rfl, hid⟩)
        · exact Or.inl rfl
    | setActorActive actor flag =>
        rcases get?_actors_updateActor actor id _ with hsame | rfl
        · exact Or.inl hsame
        · exact Or.inr (Or.inr ⟨flag, Or.inl rfl⟩)
    | setActorSuperuser actor flag =>
        rcases get?_actors_updateActor actor id _ with hsame | rfl
        · exact Or.inl hsame
        · exact Or.inr (Or.inr ⟨flag, Or.inr rfl⟩)
    | _ => simp [Write.footprint] at htouched
  · have hsame : (store.write write).2.actors = store.actors := content_write htouched
    exact Or.inl (by rw [hsame])

/-- The state of an instance changes when it is set. -/
theorem get?_visibility_write (store : Store) (write : Write) (id : InstanceId) :
    (store.write write).2.visibility.get? id = store.visibility.get? id ∨
      ∃ state, write = .setVisibility id state := by
  by_cases htouched : Part.visibility ∈ write.footprint
  · cases write with
    | setVisibility other state =>
        simp only [Store.write, setVisibility, Table.get?_insert]
        split
        · next hid => exact Or.inr ⟨state, by rw [hid]⟩
        · exact Or.inl rfl
    | _ => simp [Write.footprint] at htouched
  · have hsame : (store.write write).2.visibility = store.visibility := content_write htouched
    exact Or.inl (by rw [hsame])

end Additions

end Store

end AccessGrants
