import AccessGrants.Proofs.Evaluator.Widening
import AccessGrants.Proofs.Store.Provisioning

/-!
What provisioning an instance does to the decisions. The new grants are scoped
to the instance and the new links are the owner's, so the owner has what it had
and the default rights on the instance, and everybody else has what it had
before. Grants that are used again may be held by others, who keep them. A grant
for an instance covers no instance that is yet to be created, and no override has
its token, so nothing changes for creation.
-/

namespace AccessGrants

/-- An instance is named by its two numbers or by its object alone. -/
theorem Scope.covers_composite_iff {id : InstanceId} {target : Target} :
    (Scope.composite id).covers target = true ↔
      target = .composite id ∨ target = .single id.object := by
  cases target with
  | creation => simp [covers]
  | single object => simpa [covers] using eq_comm
  | composite wanted => simpa [covers] using eq_comm

/-- What has the token of an override is an override. -/
theorem Token.scope_of_ofGrant_eq {held stored : Grant} (same : held.subject = stored.subject)
    (token : ofGrant held = ofGrant stored) (override : stored.scope = .override) :
    held.scope = .override := by
  rcases (ofGrant_eq_iff same).mp token with
    ⟨_, hscope⟩ | ⟨_, _, _, hobject, _⟩ | ⟨_, _, hcomposite, _⟩
  · exact hscope.trans override
  · rw [override] at hobject
    cases hobject
  · rw [override] at hcomposite
    cases hcomposite

namespace Store

/-- A verdict that changes, where the right to it can only be gained. -/
theorem Decides.turned_of_ne {ε : Type} {store other : Store}
    {call : ExceptT ε (Dialogue Read Read.Answer) Bool} {P Q : Prop}
    (before : store.Decides call P) (after : other.Decides call Q) (gained : P → Q)
    (differ : other.consult call.run ≠ store.consult call.run) :
    store.consult call.run = .ok false ∧ other.consult call.run = .ok true ∧ ¬ P ∧ Q := by
  have hnot : ¬ P := fun held =>
    differ (before.consult_eq after ⟨gained, fun _ => held⟩)
  have hgained : Q := by
    by_contra hdenied
    have hsame : P ↔ Q := ⟨fun held => absurd held hnot, fun held => absurd held hdenied⟩
    exact differ (before.consult_eq after hsame)
  obtain ⟨allowed, hallowed, hiff⟩ := before
  have hfalse : allowed = false := Bool.eq_false_iff.mpr fun htrue => hnot (hiff.mp htrue)
  rw [hallowed, hfalse]
  exact ⟨rfl, after.allows_iff.mpr hgained, hnot, hgained⟩

/-- The session was opened for the actor. -/
def OpenedFor (store : Store) (session : Option SessionId) (actor : ActorId) : Prop :=
  ∃ id, session = some id ∧ store.sessions.get? id = some actor

/-- The request is for what a default template of the kind gives on the instance. -/
def RequestsDefault (store : Store) (kind : InstanceKind) (id : InstanceId) (request : Request) :
    Prop :=
  ∃ template, store.StoresDefault kind template ∧ template.subject = request.subject ∧
    template.action = request.action ∧
    (request.target = .composite id ∨ request.target = .single id.object)

variable {store after : Store} {kind : InstanceKind} {id : InstanceId} {owner : ActorId}
  {grants : List Grant} {request : Request} {actor : Actor}

section Sessions

variable {session : Option SessionId}

theorem openedFor_of_callerOf (keyed : store.Keyed) (caller : store.callerOf session = some actor) :
    store.OpenedFor session actor.id := by
  obtain ⟨given, rfl, hactor⟩ := Option.bind_eq_some_iff.mp caller
  obtain ⟨key, hsession, hrow⟩ := Option.bind_eq_some_iff.mp hactor
  have hid : actor.id = key := keyed.actors key actor hrow
  rw [hid]
  exact ⟨given, rfl, hsession⟩

theorem OpenedFor.callerOf (opened : store.OpenedFor session owner)
    (row : store.actors.get? owner = some actor) : store.callerOf session = some actor := by
  obtain ⟨given, rfl, hsession⟩ := opened
  change (store.sessions.get? given).bind store.actors.get? = some actor
  rw [hsession]
  exact row

end Sessions

theorem not_requestsDefault_creation (creation : request.target = .creation) :
    ¬ store.RequestsDefault kind id request := by
  rintro ⟨_, _, _, _, htarget | htarget⟩
  · rw [creation] at htarget
    cases htarget
  · rw [creation] at htarget
    cases htarget

section Lookups

variable (h : store.Provisioned kind id owner grants after)

include h

theorem Provisioned.callerOf (session : Option SessionId) :
    after.callerOf session = store.callerOf session := by
  have hsessions : after.sessions = store.sessions := h.untouched .sessions (by decide)
  have hlookup : after.actorForSession = store.actorForSession := by
    funext id
    rw [actorForSession, actorForSession, hsessions, h.actors]
  rw [Store.callerOf, Store.callerOf, hlookup]

theorem Provisioned.publiclyReadable_iff {action : String} {target : Target} :
    after.PubliclyReadable action target ↔ store.PubliclyReadable action target := by
  have hvisibility : after.visibility = store.visibility := h.untouched .visibility (by decide)
  rw [PubliclyReadable, PubliclyReadable, hvisibility]

theorem Provisioned.scope {grant : Grant} (mem : grant ∈ grants) :
    grant.scope = .composite id := by
  obtain ⟨_, _, hforall₂⟩ := h.instantiates
  obtain ⟨_, _, hgrant⟩ := exists_mem_of_forall₂ hforall₂ mem
  rw [hgrant]

/-- Some grant of the list fits a request if the request is for a default. -/
theorem Provisioned.exists_fits_iff :
    (∃ grant ∈ grants, request.Fits grant) ↔ store.RequestsDefault kind id request := by
  obtain ⟨templates, hlisted, hforall₂⟩ := h.instantiates
  constructor
  · rintro ⟨grant, hmem, hfits⟩
    obtain ⟨template, htemplate, hgrant⟩ := exists_mem_of_forall₂ hforall₂ hmem
    rw [hgrant] at hfits
    exact ⟨template, (hlisted.mem_iff template).mp htemplate, hfits.1, hfits.2.1,
      Scope.covers_composite_iff.mp hfits.2.2⟩
  · rintro ⟨template, hdefault, hsubject, haction, htarget⟩
    have htemplate := (hlisted.mem_iff template).mpr hdefault
    obtain ⟨grant, hmem, hgrant⟩ := exists_mem_of_forall₂ hforall₂.flip htemplate
    refine ⟨grant, hmem, ?_⟩
    rw [hgrant]
    exact ⟨hsubject, haction, Scope.covers_composite_iff.mpr htarget⟩

end Lookups

section Holding

variable (h : store.Provisioned kind id owner grants after) (grown : store.Extends after)
  (linked : store.Linked)

include h

theorem Provisioned.storesGrant_iff {grant : Grant} :
    after.StoresGrant grant ↔ store.StoresGrant grant ∨ grant ∈ grants := by
  constructor
  · rintro ⟨key, hrow⟩
    rcases (h.stored key grant).mp hrow with hold | ⟨hmem, _⟩
    · exact Or.inl ⟨key, hold⟩
    · exact Or.inr hmem
  · rintro (⟨key, hold⟩ | hmem)
    · exact ⟨key, (h.stored key grant).mpr (Or.inl hold)⟩
    · exact ⟨grant.id, (h.stored grant.id grant).mpr (Or.inr ⟨hmem, rfl⟩)⟩

include grown linked

/-- The owner holds the grants of the list itself; nobody else holds more. -/
theorem Provisioned.holdsItself_iff {holder : ActorId} {grant : Grant} :
    after.HoldsItself holder grant ↔
      store.HoldsItself holder grant ∨ holder = owner ∧ grant ∈ grants := by
  constructor
  · rintro ⟨key, hlink, hrow⟩
    rcases (h.held _).mp hlink with hold | ⟨given, hmem, hnew⟩
    · have hstored : key ∈ store.grants := (linked.actorGrants _ hold).2
      exact Or.inl ⟨key, hold, grown.get?_grants hstored hrow⟩
    · cases hnew
      have hgiven := (h.stored given.id given).mpr (Or.inr ⟨hmem, rfl⟩)
      rw [hrow, Option.some.injEq] at hgiven
      rw [hgiven]
      exact Or.inr ⟨rfl, hmem⟩
  · rintro (hself | ⟨rfl, hmem⟩)
    · exact hself.extend grown
    · exact ⟨grant.id, (h.held _).mpr (Or.inr ⟨grant, hmem, rfl⟩),
        (h.stored grant.id grant).mpr (Or.inr ⟨hmem, rfl⟩)⟩

theorem Provisioned.holdsAsMember_iff {holder : ActorId} {grant : Grant} :
    after.HoldsAsMember holder grant ↔ store.HoldsAsMember holder grant := by
  constructor
  · rintro ⟨organization, key, hmember, hlink, hrow⟩
    have hmembers : after.members = store.members := h.untouched .members (by decide)
    have hlinks : after.organizationGrants = store.organizationGrants :=
      h.untouched .organizationGrants (by decide)
    rw [hmembers] at hmember
    rw [hlinks] at hlink
    have hstored : key ∈ store.grants := (linked.organizationGrants _ hlink).2
    exact ⟨organization, key, hmember, hlink, grown.get?_grants hstored hrow⟩
  · exact fun hmember => hmember.extend grown

theorem Provisioned.holds_iff {holder : ActorId} {grant : Grant} :
    after.Holds holder grant ↔ store.Holds holder grant ∨ holder = owner ∧ grant ∈ grants := by
  rw [Holds, Holds, h.holdsItself_iff grown linked, h.holdsAsMember_iff grown linked, or_right_comm]

theorem Provisioned.granted_iff :
    after.Granted actor request ↔ store.Granted actor request ∨
      (actor.id = owner ∧ store.RequestsDefault kind id request) ∧
        (actor.active = true ∨ request.action = Policy.viewAction) := by
  rw [← h.exists_fits_iff]
  constructor
  · rintro ⟨husable, grant, hfits, hheld⟩
    rw [h.holdsItself_iff grown linked, h.holdsAsMember_iff grown linked] at hheld
    rcases hheld with (hself | ⟨howner, hmem⟩) | hmember
    · exact Or.inl ⟨husable, grant, hfits, Or.inl hself⟩
    · exact Or.inr ⟨⟨howner, grant, hmem, hfits⟩, husable⟩
    · exact Or.inl ⟨husable, grant, hfits, Or.inr hmember⟩
  · rintro (⟨husable, grant, hfits, hself | ⟨hexisting, hmember⟩⟩ |
      ⟨⟨howner, grant, hmem, hfits⟩, husable⟩)
    · exact ⟨husable, grant, hfits, Or.inl (hself.extend grown)⟩
    · exact ⟨husable, grant, hfits, Or.inr ⟨hexisting, hmember.extend grown⟩⟩
    · exact ⟨husable, grant, hfits,
        Or.inl ((h.holdsItself_iff grown linked).mpr (Or.inr ⟨howner, hmem⟩))⟩

theorem Provisioned.entitled_iff {policy : Policy} :
    after.Entitled policy actor request ↔ store.Entitled policy actor request ∨
      (actor.id = owner ∧ store.RequestsDefault kind id request) ∧
        (actor.active = true ∨ request.action = Policy.viewAction) := by
  rw [Store.entitled_iff, Store.entitled_iff, h.publiclyReadable_iff, h.granted_iff grown linked]
  simp only [or_assoc]

/-- For creation the tokens that matter are those of overrides, and none is new. -/
theorem Provisioned.tokenMatched_creation_iff (creation : request.target = .creation) :
    after.TokenMatched actor request ↔ store.TokenMatched actor request := by
  have hnotOverride : ∀ grant ∈ grants, grant.scope ≠ .override := by
    intro grant hmem hoverride
    rw [h.scope hmem] at hoverride
    cases hoverride
  constructor
  · rintro ⟨held, stored, hholds, hsubject, hactive, hstored, hfits, htoken⟩
    have hstoredScope : stored.scope = .override := hfits.scope_of_creation creation
    have hheldScope : held.scope = .override :=
      Token.scope_of_ofGrant_eq (hsubject.trans hfits.1.symm) htoken hstoredScope
    rcases (h.holds_iff grown linked).mp hholds with hheld | ⟨_, hmem⟩
    · rcases h.storesGrant_iff.mp hstored with hold | hmem
      · exact ⟨held, stored, hheld, hsubject, hactive, hold, hfits, htoken⟩
      · exact absurd hstoredScope (hnotOverride stored hmem)
    · exact absurd hheldScope (hnotOverride held hmem)
  · rintro ⟨held, stored, hholds, hsubject, hactive, hstored, hfits, htoken⟩
    exact ⟨held, stored, (h.holds_iff grown linked).mpr (Or.inl hholds), hsubject, hactive,
      h.storesGrant_iff.mpr (Or.inl hstored), hfits, htoken⟩

end Holding

end Store

namespace Service

open Store

/-- What provisioning does to the decisions, for every policy and evaluator. -/
structure Endows (store : Store) (kind : InstanceKind) (id : InstanceId) (owner : ActorId)
    (after : Store) : Prop where
  /-- Every evaluator allows the owner what the default templates give on the
  instance; a deactivated owner who is no superuser is left with viewing. -/
  endowed : ∀ (service : Service) (input : CheckInput) (actor : Actor),
    after.actors.get? owner = some actor →
    after.OpenedFor (service.requestOf input).session owner →
    store.RequestsDefault kind id (service.requestOf input) →
    actor.active = true ∨ actor.superuser = true ∨ input.action = Policy.viewAction →
    after.consult (service.checkPermission input).run = .ok true
  /-- The direct evaluator allows more, and to nobody but the owner. -/
  contained : ∀ (service : Service) (input : CheckInput),
    after.consult (service.checkDirect input).run ≠ store.consult (service.checkDirect input).run →
    store.consult (service.checkDirect input).run = .ok false ∧
      after.consult (service.checkDirect input).run = .ok true ∧
      store.OpenedFor (service.requestOf input).session owner ∧
      store.RequestsDefault kind id (service.requestOf input)
  /-- The right to create does not change under any evaluator. -/
  creation : ∀ (service : Service) (input : CheckInput), input.target = .creation →
    after.consult (service.checkPermission input).run =
      store.consult (service.checkPermission input).run

section Direct

variable (store : Store) (service : Service) (input : CheckInput)

theorem checkDirect_decides_for_caller {actor : Actor}
    (resolves : store.callerOf (service.requestOf input).session = some actor) :
    store.Decides (service.checkDirect input)
      (store.Entitled service.policy actor (service.requestOf input)) := by
  obtain ⟨allowed, hallowed, hiff⟩ := Direct.check_decides store service.policy resolves
  exact ⟨allowed, consult_checkDirect hallowed, hiff⟩

theorem checkDirect_decides_without_caller
    (unresolved : store.callerOf (service.requestOf input).session = none) :
    store.Decides (service.checkDirect input)
      (input.subject ∈ service.policy.anonymousSubjects ∧
        store.PubliclyReadable input.action input.target) := by
  obtain ⟨allowed, hallowed, hiff⟩ :=
    Direct.check_decides_without_caller store service.policy unresolved
  exact ⟨allowed, consult_checkDirect hallowed, hiff⟩

end Direct

variable {store after : Store} {kind : InstanceKind} {id : InstanceId} {owner : ActorId}
  {grants : List Grant}

theorem endows_of_provisioned (h : store.Provisioned kind id owner grants after)
    (grown : store.Extends after) (integral : store.Integral) (keyed : after.Keyed) :
    Endows store kind id owner after where
  endowed := by
    intro service input actor hrow hopened hdefault husable
    have hcaller := hopened.callerOf hrow
    have howner : actor.id = owner := keyed.actors owner actor hrow
    apply (checkPermission_decides_for_caller after service input hcaller).allows_iff.mpr
    left
    rcases husable with hactive | hsuper | hview
    · exact (h.entitled_iff grown integral.linked).mpr
        (Or.inr ⟨⟨howner, hdefault⟩, Or.inl hactive⟩)
    · exact .superuser hsuper
    · exact (h.entitled_iff grown integral.linked).mpr
        (Or.inr ⟨⟨howner, hdefault⟩, Or.inr hview⟩)
  contained := by
    intro service input hdiffer
    have hsame := h.callerOf (service.requestOf input).session
    cases hcaller : store.callerOf (service.requestOf input).session with
    | none =>
        have hbefore := checkDirect_decides_without_caller store service input hcaller
        have hafter :=
          checkDirect_decides_without_caller after service input (hsame.trans hcaller)
        rw [h.publiclyReadable_iff] at hafter
        exact absurd (hbefore.consult_eq hafter Iff.rfl) hdiffer
    | some actor =>
        have hbefore := checkDirect_decides_for_caller store service input hcaller
        have hafter :=
          checkDirect_decides_for_caller after service input (hsame.trans hcaller)
        rw [h.entitled_iff grown integral.linked] at hafter
        obtain ⟨hdenied, hallowed, hnot, hentitled⟩ :=
          hbefore.turned_of_ne hafter Or.inl hdiffer
        obtain ⟨⟨rfl, hdefault⟩, _⟩ := hentitled.resolve_left hnot
        exact ⟨hdenied, hallowed, openedFor_of_callerOf integral.keyed hcaller, hdefault⟩
  creation := by
    intro service input hcreation
    have hsame := h.callerOf (service.requestOf input).session
    cases hcaller : store.callerOf (service.requestOf input).session with
    | none =>
        apply (checkPermission_decides_without_caller store service input hcaller).consult_eq
          (checkPermission_decides_without_caller after service input (hsame.trans hcaller))
        rw [h.publiclyReadable_iff]
    | some actor =>
        have hentitled : store.Entitled service.policy actor (service.requestOf input) ↔
            after.Entitled service.policy actor (service.requestOf input) := by
          have hnone : ¬ store.RequestsDefault kind id (service.requestOf input) :=
            not_requestsDefault_creation hcreation
          rw [h.entitled_iff grown integral.linked]
          simp [hnone]
        apply (checkPermission_decides_for_caller store service input hcaller).consult_eq
          (checkPermission_decides_for_caller after service input (hsame.trans hcaller))
        rw [hentitled, h.tokenMatched_creation_iff grown integral.linked hcreation]

theorem run_provisionSubject
    (h : store.write (.provisionDefaults kind id owner) = (.ok grants, after)) :
    (provisionSubject kind id owner).run.run (fun write store => store.write write) store =
      ⟨.ok grants, [.provisioned kind id owner grants.length], after⟩ := by
  simp [provisionSubject, Dialogue.run, h]

/-- After any writes, provisioning for an owner that is stored succeeds; it gives
the owner the default rights on the instance and gives nobody else any. The
counter has to stay within the signed words. -/
theorem provisioning_endows_owner_only (writes : List Write) (kind : InstanceKind)
    (id : InstanceId) (owner : ActorId) (stored : owner ∈ (empty.after writes).actors)
    (bound : ((empty.after writes).write (.provisionDefaults kind id owner)).2.issued <
      numberLimit) :
    ∃ grants after,
      (provisionSubject kind id owner).run.run (fun write store => store.write write)
          (empty.after writes) =
        ⟨.ok grants, [.provisioned kind id owner grants.length], after⟩ ∧
      Endows (empty.after writes) kind id owner after := by
  have hbefore := Nat.lt_of_le_of_lt (issued_le_write (keyed_after writes) _) bound
  have hintegral := integral_after_writes integral_empty writes hbefore
  obtain ⟨grants, after, hwrite, hprovisioned, hchanges, hafter⟩ :=
    write_provisioned hintegral stored bound
  have hgrown : (empty.after writes).Extends after := by
    rw [hwrite] at bound
    exact Changes.extends hchanges bound hintegral
  refine ⟨grants, after, ?_, endows_of_provisioned hprovisioned hgrown hintegral hafter.keyed⟩
  exact run_provisionSubject hwrite

/-- The owner and another actor, who holds the grant to view the instance. -/
def sharedInstance : List Write :=
  [.createActor, .openSession ⟨1⟩, .createTemplate "perspective" "edit" [.perspective],
    .createTemplate "perspective" "view" [.perspective], .createGrant ⟨4⟩ (.composite ⟨9, 1⟩),
    .createActor, .openSession ⟨6⟩, .assignToActor ⟨5⟩ ⟨6⟩]

/-- The owner comes to edit, and the other actor does not. -/
theorem shared_instance_endows_owner :
    (⟨1⟩ : ActorId) ∈ (empty.after sharedInstance).actors ∧
      ((empty.after sharedInstance).write (.provisionDefaults .perspective ⟨9, 1⟩ ⟨1⟩)).2.issued <
        numberLimit ∧
      ∃ grants after,
        grants = [⟨⟨8⟩, ⟨3⟩, "perspective", "edit", .composite ⟨9, 1⟩⟩,
          ⟨⟨5⟩, ⟨4⟩, "perspective", "view", .composite ⟨9, 1⟩⟩] ∧
        (provisionSubject .perspective ⟨9, 1⟩ ⟨1⟩).run.run (fun write store => store.write write)
            (empty.after sharedInstance) =
          ⟨.ok grants, [.provisioned .perspective ⟨9, 1⟩ ⟨1⟩ grants.length], after⟩ ∧
        Endows (empty.after sharedInstance) .perspective ⟨9, 1⟩ ⟨1⟩ after ∧
        let edit (session : SessionId) : Request :=
          ⟨some session, "edit", "perspective", .single 1⟩
        (empty.after sharedInstance).consult (Direct.check .standard (edit ⟨2⟩)).run = .ok false ∧
          after.consult (Direct.check .standard (edit ⟨2⟩)).run = .ok true ∧
          after.consult (Direct.check .standard (edit ⟨7⟩)).run = .ok false := by
  have hstored : (⟨1⟩ : ActorId) ∈ (empty.after sharedInstance).actors :=
    Table.contains_iff.mp (by decide)
  have hbound : ((empty.after sharedInstance).write
      (.provisionDefaults .perspective ⟨9, 1⟩ ⟨1⟩)).2.issued < numberLimit := by decide
  obtain ⟨grants, after, hrun, hendows⟩ :=
    provisioning_endows_owner_only sharedInstance .perspective ⟨9, 1⟩ ⟨1⟩ hstored hbound
  refine ⟨hstored, hbound, grants, after, ?_, hrun, hendows, rfl, ?_⟩
  · exact Except.ok.inj (congrArg Dialogue.Run.result hrun).symm
  · have hafter := (congrArg Dialogue.Run.state hrun).symm
    subst hafter
    exact ⟨rfl, rfl⟩

end Service

end AccessGrants
