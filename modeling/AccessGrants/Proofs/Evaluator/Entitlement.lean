import AccessGrants.Evaluator.Direct
import AccessGrants.Proofs.Principal.Resolution

/-!
Who is entitled to a request, said without any evaluator: superusers, readers
of public instances, and holders of a fitting grant, where the right to create
is not inherited from an organization. Main statement: the direct evaluator
answers every request, and allows exactly what the caller is entitled to.
-/

namespace AccessGrants

/-- The grant is for exactly this action on this subject type, and its scope
covers the target. -/
def Request.Fits (request : Request) (grant : Grant) : Prop :=
  grant.subject = request.subject ∧ grant.action = request.action ∧
    grant.scope.covers request.target = true

namespace Store

/-- The action only reads and the target is an instance in a public state. -/
def PubliclyReadable (store : Store) (action : String) (target : Target) : Prop :=
  ∃ id state, target = .composite id ∧ store.visibility.get? id = some state ∧
    (state = .published ∨ state = .limitedAccess) ∧
    (action = Policy.viewAction ∨ action = Policy.previewAction)

/-- The actor has a use of some fitting grant. -/
structure Granted (store : Store) (actor : Actor) (request : Request) : Prop where
  /-- A deactivated actor keeps viewing only. -/
  usable : actor.active = true ∨ request.action = Policy.viewAction
  /-- Creation rights have to be the actor's own. -/
  held : ∃ grant, request.Fits grant ∧
    (store.HoldsItself actor.id grant ∨
      request.target ≠ .creation ∧ store.HoldsAsMember actor.id grant)

inductive Entitled (store : Store) (policy : Policy) (actor : Actor) (request : Request) :
    Prop where
  | superuser (h : actor.superuser = true)
  | reader (listed : request.subject ∈ policy.publicSubjects)
      (readable : store.PubliclyReadable request.action request.target)
  | grantee (granted : store.Granted actor request)

end Store

namespace Policy

theorem activationAllows_iff {actor : Actor} {action : String} :
    activationAllows actor action = true ↔ actor.active = true ∨ action = viewAction := by
  simp [activationAllows]

theorem isVisibilityAction_iff {action : String} :
    isVisibilityAction action = true ↔ action = viewAction ∨ action = previewAction := by
  simp [isVisibilityAction, visibilityActions]

theorem visibilityGrants_eq_isPublic {action : String} (h : isVisibilityAction action = true) :
    visibilityGrants action = Visibility.isPublic := by
  funext state
  simp [visibilityGrants, h]

theorem inheritsThroughOrganizations_iff {target : Target} :
    inheritsThroughOrganizations target = true ↔ target ≠ .creation := by
  cases target <;> simp [inheritsThroughOrganizations]

end Policy

/-- An override is the only scope that covers what does not exist yet. -/
theorem Scope.covers_creation_iff {scope : Scope} :
    scope.covers .creation = true ↔ scope = .override := by
  cases scope <;> simp [covers]

theorem Request.Fits.scope_of_creation {request : Request} {grant : Grant}
    (hfits : request.Fits grant) (hcreation : request.target = .creation) :
    grant.scope = .override := by
  obtain ⟨_, _, hcovers⟩ := hfits
  rw [hcreation] at hcovers
  exact Scope.covers_creation_iff.mp hcovers

theorem Visibility.isPublic_iff {state : Visibility} :
    state.isPublic = true ↔ state = .published ∨ state = .limitedAccess := by
  cases state <;> simp [isPublic]

namespace Store

variable {store : Store} {action : String}

theorem publiclyReadable_composite {id : InstanceId} :
    store.PubliclyReadable action (.composite id) ↔
      (store.visibility.get? id).any Visibility.isPublic = true ∧
        Policy.isVisibilityAction action = true := by
  rw [Option.any_eq_true, Policy.isVisibilityAction_iff]
  constructor
  · rintro ⟨_, state, hid, hstate, hpublic, haction⟩
    cases hid
    exact ⟨⟨state, hstate, Visibility.isPublic_iff.mpr hpublic⟩, haction⟩
  · rintro ⟨⟨state, hstate, hpublic⟩, haction⟩
    exact ⟨id, state, rfl, hstate, Visibility.isPublic_iff.mp hpublic, haction⟩

theorem entitled_iff {policy : Policy} {actor : Actor} {request : Request} :
    store.Entitled policy actor request ↔
      actor.superuser = true ∨
        (request.subject ∈ policy.publicSubjects ∧
          store.PubliclyReadable request.action request.target) ∨
        store.Granted actor request := by
  constructor
  · rintro (hsuper | ⟨hlisted, hreadable⟩ | hgranted)
    · exact Or.inl hsuper
    · exact Or.inr (Or.inl ⟨hlisted, hreadable⟩)
    · exact Or.inr (Or.inr hgranted)
  · rintro (hsuper | ⟨hlisted, hreadable⟩ | hgranted)
    · exact .superuser hsuper
    · exact .reader hlisted hreadable
    · exact .grantee hgranted

theorem not_publiclyReadable_creation : ¬ store.PubliclyReadable action .creation := by
  rintro ⟨_, _, htarget, _⟩
  cases htarget

theorem not_publiclyReadable_single {object : Int64} :
    ¬ store.PubliclyReadable action (.single object) := by
  rintro ⟨_, _, htarget, _⟩
  cases htarget

end Store

namespace Direct

variable (store : Store) (policy : Policy) {actor : Actor} {request : Request}

theorem publiclyVisible_decides (action : String) (target : Target) :
    store.Decides (publiclyVisible action target) (store.PubliclyReadable action target) := by
  cases target with
  | creation => exact ⟨false, rfl, by simp [Store.not_publiclyReadable_creation]⟩
  | single object => exact ⟨false, rfl, by simp [Store.not_publiclyReadable_single]⟩
  | composite id =>
      simp only [publiclyVisible, Store.publiclyReadable_composite]
      split
      · next haction =>
          rw [Store.Decides, Store.consult_call_bind _ _ (Store.consult_visibility _ _)]
          refine ⟨_, rfl, ?_⟩
          simp [Policy.visibilityGrants_eq_isPublic haction, haction]
      · next haction => exact ⟨false, rfl, by simp [haction]⟩

/-- Without a caller only the public instances of anonymous subject types can
be reached. -/
theorem checkAnonymous_decides (request : Request) :
    store.Decides (checkAnonymous policy request)
      (request.subject ∈ policy.anonymousSubjects ∧
        store.PubliclyReadable request.action request.target) := by
  unfold checkAnonymous Policy.grantsAnonymously
  split
  · next hlisted =>
      rw [SortedSet.contains_eq_true] at hlisted
      simpa [hlisted] using publiclyVisible_decides store request.action request.target
  · next hlisted =>
      rw [SortedSet.contains_eq_true] at hlisted
      exact ⟨false, rfl, by simp [hlisted]⟩

theorem consult_checkGrants (actor : Actor) (request : Request) :
    store.consult (checkGrants actor request).run =
      .ok (Policy.activationAllows actor request.action &&
        (store.grantExistsForActor ⟨request.subject, request.action, request.target⟩ actor.id ||
          (Policy.inheritsThroughOrganizations request.target &&
            store.grantExistsForOrganizations ⟨request.subject, request.action, request.target⟩
              actor.id))) := by
  simp only [checkGrants]
  cases hactive : Policy.activationAllows actor request.action with
  | false => rfl
  | true =>
      simp only [Bool.not_true, Bool.false_eq_true, if_false, Bool.true_and]
      rw [Store.consult_call_bind _ _ (Store.consult_grantExistsForActor _ _ _)]
      cases store.grantExistsForActor ⟨request.subject, request.action, request.target⟩
          actor.id with
      | true => rfl
      | false =>
          cases hinherits : Policy.inheritsThroughOrganizations request.target with
          | false => rfl
          | true => exact Store.consult_grantExistsForOrganizations _ _ _

theorem checkGrants_decides (actor : Actor) (request : Request) :
    store.Decides (checkGrants actor request) (store.Granted actor request) := by
  refine ⟨_, consult_checkGrants store actor request, ?_⟩
  rw [Bool.and_eq_true, Bool.or_eq_true, Bool.and_eq_true, Policy.activationAllows_iff,
    Policy.inheritsThroughOrganizations_iff, Store.grantExistsForActor_iff,
    Store.grantExistsForOrganizations_iff]
  simp only [GrantQuery.admits_iff]
  constructor
  · rintro ⟨husable, ⟨grant, hheld, hfits⟩ | ⟨hexisting, grant, hheld, hfits⟩⟩
    · exact ⟨husable, grant, hfits, Or.inl hheld⟩
    · exact ⟨husable, grant, hfits, Or.inr ⟨hexisting, hheld⟩⟩
  · rintro ⟨husable, grant, hfits, hheld | ⟨hexisting, hheld⟩⟩
    · exact ⟨husable, Or.inl ⟨grant, hheld, hfits⟩⟩
    · exact ⟨husable, Or.inr ⟨hexisting, grant, hheld, hfits⟩⟩

/-- The steps in their order: the superuser's bypass, then the public instance,
then the grants. A step is only reached when those before it say no. -/
theorem checkActor_decides (actor : Actor) (request : Request) :
    store.Decides (checkActor policy actor request) (store.Entitled policy actor request) := by
  obtain ⟨granted, hgranted, hgrantedIff⟩ :=
    checkGrants_decides store actor request
  obtain ⟨readable, hreadable, hreadableIff⟩ :=
    publiclyVisible_decides store request.action request.target
  rw [Store.Decides, Store.entitled_iff, ← hgrantedIff, ← hreadableIff,
    ← SortedSet.contains_eq_true]
  unfold checkActor Policy.grantsPublicly
  cases hsuper : actor.superuser with
  | true => exact ⟨true, rfl, by simp⟩
  | false =>
      cases hlisted : policy.publicSubjects.contains request.subject with
      | false => exact ⟨granted, hgranted, by simp⟩
      | true =>
          simp only [Bool.false_eq_true, if_false, if_true]
          rw [Store.consult_call_bind _ _ hreadable]
          cases readable with
          | true => exact ⟨true, rfl, by simp⟩
          | false => exact ⟨granted, hgranted, by simp⟩

/-- A session that leads to no actor is evaluated as if none had been given. -/
theorem consult_check (request : Request) :
    store.consult (check policy request).run =
      match store.callerOf request.session with
      | none => store.consult (checkAnonymous policy request).run
      | some actor => store.consult (checkActor policy actor request).run := by
  unfold check Store.callerOf
  cases request.session with
  | none => rfl
  | some session =>
      rw [Store.consult_call_bind _ _ (Store.consult_actorForSession _ _), Option.bind_some]
      cases store.actorForSession session with
      | none => rfl
      | some actor => rfl

theorem check_decides (h : store.callerOf request.session = some actor) :
    store.Decides (check policy request) (store.Entitled policy actor request) := by
  rw [Store.Decides, consult_check, h]
  exact checkActor_decides store policy actor request

theorem check_decides_without_caller (h : store.callerOf request.session = none) :
    store.Decides (check policy request)
      (request.subject ∈ policy.anonymousSubjects ∧
        store.PubliclyReadable request.action request.target) := by
  rw [Store.Decides, consult_check, h]
  exact checkAnonymous_decides store policy request

end Direct

end AccessGrants
