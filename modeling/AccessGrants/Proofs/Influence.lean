import AccessGrants.Proofs.Evaluator.Widening
import AccessGrants.Proofs.Store.Growth

/-!
Which writes have a say in a decision. A decision is about the caller of a
session, and the writes that can change it are those that name this caller, an
organization of it, the instance that the request is for, or the session
itself. Everything else that is made meanwhile, grants and templates for others
included, leaves the decision as it is; and giving a right never takes one away.
-/

namespace AccessGrants

/-- The writes that hand out rights: memberships, assignments and the default
grants of an owner. -/
def Write.isGranting : Write → Bool
  | .addMember _ _ | .assignToActor _ _ | .assignToOrganization _ _ | .provisionDefaults _ _ _ =>
    true
  | _ => false

namespace Store

/-- The writes that have a say in the decision on a request. -/
inductive Affects (store : Store) (request : Request) : Write → Prop where
  /-- The very session of the request is opened. -/
  | session {session : SessionId} {actor : ActorId} (given : request.session = some session)
      (opens : (store.openSession actor).1 = .ok session) :
      Affects store request (.openSession actor)
  | visibility {id : InstanceId} (state : Visibility) (target : request.target = .composite id) :
      Affects store request (.setVisibility id state)
  | active {actor : Actor} (caller : store.callerOf request.session = some actor) (flag : Bool) :
      Affects store request (.setActorActive actor.id flag)
  | superuser {actor : Actor} (caller : store.callerOf request.session = some actor)
      (flag : Bool) : Affects store request (.setActorSuperuser actor.id flag)
  | member {actor : Actor} (caller : store.callerOf request.session = some actor)
      (organization : OrganizationId) : Affects store request (.addMember organization actor.id)
  | assigned {actor : Actor} (caller : store.callerOf request.session = some actor)
      (grant : GrantId) : Affects store request (.assignToActor grant actor.id)
  /-- An organization that the caller is a member of gets a grant. -/
  | inherited {actor : Actor} {organization : OrganizationId}
      (caller : store.callerOf request.session = some actor)
      (belongs : (⟨organization, actor.id⟩ : Link .organization .actor) ∈ store.members)
      (grant : GrantId) : Affects store request (.assignToOrganization grant organization)
  | provisioned {actor : Actor} (caller : store.callerOf request.session = some actor)
      (kind : InstanceKind) (id : InstanceId) :
      Affects store request (.provisionDefaults kind id actor.id)

variable {store : Store} {write : Write} {request : Request}

/-- The caller of a session changes when the session is opened or a flag of the
caller is set. A new actor takes no number that a session leads to. -/
theorem callerOf_write (h : store.Integral) (bound : (store.write write).2.issued < numberLimit)
    (session : Option SessionId) :
    (store.write write).2.callerOf session = store.callerOf session ∨
      (∃ id actor, session = some id ∧ write = .openSession actor ∧
        (store.openSession actor).1 = .ok id) ∨
      ∃ actor flag, store.callerOf session = some actor ∧
        (write = .setActorActive actor.id flag ∨ write = .setActorSuperuser actor.id flag) := by
  cases session with
  | none => exact Or.inl rfl
  | some session =>
      rcases store.get?_sessions_write write session with hsame | ⟨actor, rfl, hopens⟩
      · cases hrow : store.sessions.get? session with
        | none =>
            left
            change ((store.write write).2.sessions.get? session).bind _ =
              (store.sessions.get? session).bind _
            rw [hsame, hrow]
            rfl
        | some id =>
            have hcaller (other : Store) (hother : other.sessions.get? session = some id) :
                other.callerOf (some session) = other.actors.get? id := by
              change (other.sessions.get? session).bind _ = _
              rw [hother]
              rfl
            rw [hcaller store hrow, hcaller _ (hsame.trans hrow)]
            have hstored : id ∈ store.actors := h.linked.sessions session id hrow
            rcases store.get?_actors_write write id with hactor | ⟨rfl, hnext⟩ | ⟨flag, hflag⟩
            · exact Or.inl hactor
            · have hfresh : store.nextId ∉ store.actors := h.numbered.fresh bound rfl
              rw [hnext] at hfresh
              exact absurd hstored hfresh
            · obtain ⟨actor, hactor⟩ := hstored
              have hid : actor.id = id := h.keyed.actors id actor hactor
              subst hid
              exact Or.inr (Or.inr ⟨actor, flag, hactor, hflag⟩)
      · exact Or.inr (Or.inl ⟨session, actor, rfl, rfl, hopens⟩)

theorem publiclyReadable_write (store : Store) (write : Write) (action : String)
    (target : Target) :
    ((store.write write).2.PubliclyReadable action target ↔ store.PubliclyReadable action target) ∨
      ∃ id state, target = .composite id ∧ write = .setVisibility id state := by
  cases target with
  | creation => simp [not_publiclyReadable_creation]
  | single object => simp [not_publiclyReadable_single]
  | composite id =>
      rcases store.get?_visibility_write write id with hsame | ⟨state, rfl⟩
      · left
        rw [publiclyReadable_composite, publiclyReadable_composite, hsame]
      · exact Or.inr ⟨id, state, rfl, rfl⟩

section Holding

variable (h : store.Integral) (bound : (store.write write).2.issued < numberLimit)

include h bound

theorem extends_write : store.Extends (store.write write).2 :=
  Changes.extends (store.write_outcome h.keyed write).changes bound h

theorem holdsItself_write {actor : ActorId} {grant : Grant}
    (held : (store.write write).2.HoldsItself actor grant) :
    store.HoldsItself actor grant ∨ (∃ id, write = .assignToActor id actor) ∨
      ∃ kind id, write = .provisionDefaults kind id actor := by
  obtain ⟨id, hlink, hrow⟩ := held
  rcases mem_actorGrants_write hlink with hold | hassigned | hprovisioned
  · have hstored : id ∈ store.grants := (h.linked.actorGrants _ hold).2
    exact Or.inl ⟨id, hold, (extends_write h bound).get?_grants hstored hrow⟩
  · exact Or.inr (Or.inl ⟨id, hassigned⟩)
  · exact Or.inr (Or.inr hprovisioned)

theorem holdsAsMember_write {actor : ActorId} {grant : Grant}
    (held : (store.write write).2.HoldsAsMember actor grant) :
    store.HoldsAsMember actor grant ∨ (∃ organization, write = .addMember organization actor) ∨
      ∃ organization id, (⟨organization, actor⟩ : Link .organization .actor) ∈ store.members ∧
        write = .assignToOrganization id organization := by
  obtain ⟨organization, id, hmember, hlink, hrow⟩ := held
  rcases mem_members_write hmember with hbelongs | hjoined
  · rcases mem_organizationGrants_write hlink with hold | hassigned
    · have hstored : id ∈ store.grants := (h.linked.organizationGrants _ hold).2
      exact Or.inl ⟨organization, id, hbelongs, hold,
        (extends_write h bound).get?_grants hstored hrow⟩
    · exact Or.inr (Or.inr ⟨organization, id, hbelongs, hassigned⟩)
  · exact Or.inr (Or.inl ⟨organization, hjoined⟩)

/-- No write takes a grant from anybody, so only the caller and the state of the
target have to be looked at. -/
theorem widens_write
    (caller : (store.write write).2.callerOf request.session = store.callerOf request.session)
    (readable : store.PubliclyReadable request.action request.target →
      (store.write write).2.PubliclyReadable request.action request.target) :
    Widens request store (store.write write).2 where
  caller := caller
  readable := readable
  itself := fun _ _ _ _ held => held.extend (extends_write h bound)
  asMember := fun _ _ _ _ held => held.extend (extends_write h bound)

theorem caller_of_unaffected (unaffected : ¬ store.Affects request write) :
    (store.write write).2.callerOf request.session = store.callerOf request.session := by
  rcases callerOf_write h bound request.session with
    hsame | ⟨session, actor, hgiven, rfl, hopens⟩ | ⟨actor, flag, hcaller, rfl | rfl⟩
  · exact hsame
  · exact absurd (.session hgiven hopens) unaffected
  · exact absurd (.active hcaller flag) unaffected
  · exact absurd (.superuser hcaller flag) unaffected

omit h bound in
theorem readable_of_unaffected (unaffected : ¬ store.Affects request write) :
    (store.write write).2.PubliclyReadable request.action request.target ↔
      store.PubliclyReadable request.action request.target := by
  rcases store.publiclyReadable_write write request.action request.target with
    hsame | ⟨id, state, htarget, rfl⟩
  · exact hsame
  · exact absurd (.visibility state htarget) unaffected

/-- A write that has no say leaves the caller with what it had. -/
theorem widens_of_unaffected (unaffected : ¬ store.Affects request write) :
    Widens request (store.write write).2 store where
  caller := (caller_of_unaffected h bound unaffected).symm
  readable := (readable_of_unaffected unaffected).mp
  itself := by
    intro actor hafter grant _ held
    have hcaller := (caller_of_unaffected h bound unaffected).symm.trans hafter
    rcases holdsItself_write h bound held with hold | ⟨id, rfl⟩ | ⟨kind, id, rfl⟩
    · exact hold
    · exact absurd (.assigned hcaller id) unaffected
    · exact absurd (.provisioned hcaller kind id) unaffected
  asMember := by
    intro actor hafter grant _ held
    have hcaller := (caller_of_unaffected h bound unaffected).symm.trans hafter
    rcases holdsAsMember_write h bound held with
      hold | ⟨organization, rfl⟩ | ⟨organization, id, hbelongs, rfl⟩
    · exact hold
    · exact absurd (.member hcaller organization) unaffected
    · exact absurd (.inherited hcaller hbelongs id) unaffected

/-- Handing out rights changes no caller and no state of an instance. -/
theorem widens_of_granting (granting : write.isGranting = true) :
    Widens request store (store.write write).2 := by
  apply widens_write h bound
  · rcases callerOf_write h bound request.session with
      hsame | ⟨session, actor, hgiven, rfl, hopens⟩ | ⟨actor, flag, hcaller, rfl | rfl⟩
    · exact hsame
    · cases granting
    · cases granting
    · cases granting
  · rcases store.publiclyReadable_write write request.action request.target with
      hsame | ⟨id, state, htarget, rfl⟩
    · exact hsame.mpr
    · cases granting

end Holding

end Store

namespace Evaluator

/-- How far a write has a say in the verdict of a check. -/
structure ChangedOnlyBy (store : Store) (write : Write) (request : Request)
    (check : Inquiry Bool) : Prop where
  /-- There is a verdict before and after. -/
  answered : ∃ before after, store.consult check.run = .ok before ∧
    (store.write write).2.consult check.run = .ok after
  affected : (store.write write).2.consult check.run ≠ store.consult check.run →
    store.Affects request write
  /-- A right that is handed out turns a denial into an allowance. -/
  granting : write.isGranting = true →
    (store.write write).2.consult check.run ≠ store.consult check.run →
    store.consult check.run = .ok false ∧ (store.write write).2.consult check.run = .ok true

variable {store : Store} {write : Write} {request : Request}

/-- A check that allows no less where the caller has no less. -/
theorem changedOnlyBy_of_widens {check : Inquiry Bool} (h : store.Integral)
    (bound : (store.write write).2.issued < Store.numberLimit)
    (answers : ∀ store : Store, ∃ allowed, store.consult check.run = .ok allowed)
    (allows : ∀ store other : Store, Store.Widens request store other →
      store.consult check.run = .ok true → other.consult check.run = .ok true) :
    ChangedOnlyBy store write request check where
  answered := by
    obtain ⟨before, hbefore⟩ := answers store
    obtain ⟨after, hafter⟩ := answers (store.write write).2
    exact ⟨before, after, hbefore, hafter⟩
  affected := by
    intro hdiffer
    by_contra unaffected
    have hkept := Store.widens_write h bound
      (Store.caller_of_unaffected h bound unaffected)
      (Store.readable_of_unaffected unaffected).mpr
    have hlimited := Store.widens_of_unaffected h bound unaffected
    exact hdiffer (consult_eq_of_allows_iff (answers _) (answers _)
      ⟨allows _ _ hkept, allows _ _ hlimited⟩)
  granting := by
    intro hgranting hdiffer
    have hkept : store.consult check.run = .ok true →
        (store.write write).2.consult check.run = .ok true :=
      allows _ _ (Store.widens_of_granting h bound hgranting)
    obtain ⟨before, hbefore⟩ := answers store
    obtain ⟨after, hafter⟩ := answers (store.write write).2
    rw [hbefore, hafter] at hdiffer hkept ⊢
    cases before with
    | true => exact absurd (hkept rfl) hdiffer
    | false =>
        cases after with
        | true => exact ⟨rfl, rfl⟩
        | false => exact absurd rfl hdiffer

/-- Whatever has been written before, a write changes the verdict of the direct
evaluator only if it has a say in the decision, and where tokens tell grants
apart the same holds of the general one. The counter has to stay within the
signed words: a number that is given out twice would be a row taken away. -/
theorem verdict_changed_only_by_affecting (writes : List Write) (write : Write) (policy : Policy)
    (request : Request)
    (bound : ((Store.empty.after writes).write write).2.issued < Store.numberLimit) :
    ChangedOnlyBy (Store.empty.after writes) write request (Direct.check policy request) ∧
      ((∀ client : Int64, ¬ Text.Repeats (Text.decimal client.toInt) request.subject) →
        ChangedOnlyBy (Store.empty.after writes) write request (General.check policy request)) := by
  have hbefore := Nat.lt_of_le_of_lt (Store.issued_le_write (Store.keyed_after writes) write) bound
  have hintegral := Store.integral_after_writes Store.integral_empty writes hbefore
  constructor
  · apply changedOnlyBy_of_widens hintegral bound
    · intro store
      exact direct_answers policy store request
    · intro store other hwidens
      exact direct_allows_of_widens policy hwidens
  · intro unambiguous
    apply changedOnlyBy_of_widens hintegral bound
    · intro store
      exact general_answers policy store request
    · intro store other hwidens
      apply general_allows_of_widens policy hwidens
      intro actor hcaller
      exact hwidens.tokenMatched_of_unambiguous hcaller unambiguous

/-- A member of an organization, and a grant that nobody holds yet. -/
def unassigned : List Write :=
  [.createActor, .openSession ⟨1⟩, .createOrganization "editors", .addMember ⟨3⟩ ⟨1⟩,
    .createTemplate "perspective" "edit" [], .createGrant ⟨4⟩ (.composite ⟨5, 42⟩)]

/-- The organization gets the grant, and its member is allowed to edit. -/
theorem assignment_to_organization_allows_member :
    let store := Store.empty.after unassigned
    let write : Write := .assignToOrganization ⟨5⟩ ⟨3⟩
    let request : Request := ⟨some ⟨2⟩, "edit", "perspective", .single 42⟩
    (store.write write).2.issued < Store.numberLimit ∧
      (store.consult (Direct.check .standard request).run = .ok false ∧
        (store.write write).2.consult (Direct.check .standard request).run = .ok true) ∧
      ChangedOnlyBy store write request (Direct.check .standard request) ∧
      ChangedOnlyBy store write request (General.check .standard request) := by
  intro store write request
  have hbound : (store.write write).2.issued < Store.numberLimit := by decide
  have hunambiguous : request.Unambiguous :=
    request.unambiguous_of_mem 'p' (by decide) (by decide)
  have hchanged := verdict_changed_only_by_affecting unassigned write .standard request hbound
  exact ⟨hbound, ⟨by rfl, by rfl⟩, hchanged.1, hchanged.2 hunambiguous⟩

end Evaluator

end AccessGrants
