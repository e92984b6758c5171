import AccessGrants.Proofs.Decision

/-!
Targets by the scopes that cover them. Scopes that cover what does not exist yet
cover everything, and scopes that cover an instance cover its object number
alone. The evaluators follow this order: what is allowed for one target is
allowed for those that it entails, whoever asks, as long as it does not rest on
the publication state of the instance, which a number alone does not have.
-/

namespace AccessGrants

/-- Every scope that covers the target covers the other one too. -/
def Target.Entails (target other : Target) : Prop :=
  ∀ scope : Scope, scope.covers target = true → scope.covers other = true

namespace Target

theorem creation_entails (other : Target) : Entails .creation other := by
  intro scope hcovers
  rw [Scope.covers_creation_iff.mp hcovers]
  rfl

theorem composite_entails_single (id : InstanceId) :
    Entails (.composite id) (.single id.object) := by
  intro scope hcovers
  cases scope with
  | override => rfl
  | object object => simp [Scope.covers] at hcovers
  | composite stored =>
      have hstored : stored = id := by simpa [Scope.covers] using hcovers
      rw [hstored]
      simp [Scope.covers]

/-- There are no other targets that one entails than itself, those that creation
entails and the object number of an instance: the scope that names a target
alone tells it from the rest. -/
theorem entails_iff {target other : Target} :
    target.Entails other ↔
      target = .creation ∨ target = other ∨
        ∃ id, target = .composite id ∧ other = .single id.object := by
  constructor
  · intro h
    cases target with
    | creation => exact Or.inl rfl
    | single object =>
        have hother := h (.object object) (by simp [Scope.covers])
        cases other with
        | creation => simp [Scope.covers] at hother
        | single wanted => simpa [Scope.covers] using hother
        | composite id => simp [Scope.covers] at hother
    | composite id =>
        have hother := h (.composite id) (by simp [Scope.covers])
        cases other with
        | creation => simp [Scope.covers] at hother
        | single wanted =>
            have hobject : id.object = wanted := by simpa [Scope.covers] using hother
            exact Or.inr (Or.inr ⟨id, rfl, by rw [hobject]⟩)
        | composite wanted => simpa [Scope.covers] using hother
  · rintro (rfl | rfl | ⟨id, rfl, rfl⟩)
    · exact creation_entails other
    · exact fun _ hcovers => hcovers
    · exact composite_entails_single id

/-- Nothing but creation entails creation. -/
theorem Entails.eq_creation {target : Target} (h : target.Entails .creation) :
    target = .creation := by
  rcases entails_iff.mp h with hcreation | hsame | ⟨id, _, hother⟩
  · exact hcreation
  · exact hsame
  · cases hother

end Target

/-- The same request for another target. -/
def Request.aimedAt (request : Request) (target : Target) : Request :=
  { request with target }

section Requests

variable {request : Request} {other : Target} (entails : request.target.Entails other)

include entails

theorem Request.Fits.aimedAt {grant : Grant} (h : request.Fits grant) :
    (request.aimedAt other).Fits grant := by
  obtain ⟨hsubject, haction, hcovers⟩ := h
  exact ⟨hsubject, haction, entails grant.scope hcovers⟩

namespace Store

variable {store : Store} {actor : Actor}

/-- A grant that is inherited is one for a target that exists, and no such target
entails creation. -/
theorem Granted.aimedAt (h : store.Granted actor request) :
    store.Granted actor (request.aimedAt other) := by
  obtain ⟨husable, grant, hfits, hheld⟩ := h
  refine ⟨husable, grant, hfits.aimedAt entails, ?_⟩
  rcases hheld with hself | ⟨hexisting, hmember⟩
  · exact Or.inl hself
  · refine Or.inr ⟨?_, hmember⟩
    intro hcreation
    have hother : other = .creation := hcreation
    rw [hother] at entails
    exact hexisting entails.eq_creation

theorem Entitled.aimedAt {policy : Policy} (h : store.Entitled policy actor request)
    (readable : store.PubliclyReadable request.action request.target →
      store.PubliclyReadable request.action other) :
    store.Entitled policy actor (request.aimedAt other) := by
  rcases h with hsuper | ⟨hlisted, hreadable⟩ | hgranted
  · exact .superuser hsuper
  · exact .reader hlisted (readable hreadable)
  · exact .grantee (hgranted.aimedAt entails)

theorem TokenMatched.aimedAt (h : store.TokenMatched actor request) :
    store.TokenMatched actor (request.aimedAt other) := by
  obtain ⟨held, grant, hholds, hsubject, hactive, hstored, hfits, htoken⟩ := h
  exact ⟨held, grant, hholds, hsubject, hactive, hstored, hfits.aimedAt entails, htoken⟩

end Store

end Requests

theorem Store.not_publiclyReadable_of_not_public {store : Store} {action : String}
    {id : InstanceId}
    (hidden : ∀ state, store.visibility.get? id = some state →
      state ≠ .published ∧ state ≠ .limitedAccess) :
    ¬ store.PubliclyReadable action (.composite id) := by
  rintro ⟨_, state, htarget, hstate, hpublic, _⟩
  cases htarget
  obtain ⟨hpublished, hlimited⟩ := hidden state hstate
  exact hpublic.elim hpublished hlimited

namespace Service

/-- What is allowed for a target is allowed for the targets it entails, if they
are read by whom it is read. -/
theorem checkPermission_allows_of_entails (store : Store) (service : Service)
    (input : CheckInput) {other : Target} (entails : input.target.Entails other)
    (readable : store.PubliclyReadable input.action input.target →
      store.PubliclyReadable input.action other)
    (allowed : store.consult (service.checkPermission input).run = .ok true) :
    store.consult (service.checkPermission { input with target := other }).run = .ok true := by
  have hrequest : service.requestOf { input with target := other } =
      (service.requestOf input).aimedAt other := rfl
  cases hcaller : store.callerOf (service.requestOf input).session with
  | none =>
      rw [(checkPermission_decides_without_caller store service input hcaller).allows_iff]
        at allowed
      rw [(checkPermission_decides_without_caller store service { input with target := other }
        hcaller).allows_iff]
      exact ⟨allowed.1, readable allowed.2⟩
  | some actor =>
      rw [(checkPermission_decides_for_caller store service input hcaller).allows_iff] at allowed
      rw [(checkPermission_decides_for_caller store service { input with target := other }
        hcaller).allows_iff, hrequest]
      rcases allowed with hentitled | ⟨hgeneral, hmatched⟩
      · exact Or.inl (hentitled.aimedAt entails readable)
      · exact Or.inr ⟨hgeneral, hmatched.aimedAt entails⟩

/-- Who may create may do the same to every instance, and who may act on an
instance that is not public may act on its object number alone: for every
caller, under every policy and with every evaluator. -/
theorem checkPermission_ordered_by_target (store : Store) (service : Service)
    (input : CheckInput) :
    (store.consult (service.checkPermission { input with target := .creation }).run = .ok true →
      (∀ object,
        store.consult (service.checkPermission { input with target := .single object }).run =
          .ok true) ∧
      ∀ id,
        store.consult (service.checkPermission { input with target := .composite id }).run =
          .ok true) ∧
    ∀ id, (∀ state, store.visibility.get? id = some state →
        state ≠ .published ∧ state ≠ .limitedAccess) →
      store.consult (service.checkPermission { input with target := .composite id }).run =
        .ok true →
      store.consult (service.checkPermission { input with target := .single id.object }).run =
        .ok true := by
  constructor
  · intro allowed
    have heverywhere : ∀ other : Target,
        store.consult (service.checkPermission { input with target := other }).run = .ok true := by
      intro other
      apply checkPermission_allows_of_entails store service { input with target := .creation }
        (Target.creation_entails other) _ allowed
      exact fun hreadable => absurd hreadable Store.not_publiclyReadable_creation
    exact ⟨fun object => heverywhere (.single object), fun id => heverywhere (.composite id)⟩
  · intro id hidden allowed
    apply checkPermission_allows_of_entails store service { input with target := .composite id }
      (Target.composite_entails_single id) _ allowed
    exact fun hreadable => absurd hreadable (Store.not_publiclyReadable_of_not_public hidden)

/-- An organization holds the grant to edit perspectives, and a member of it the
grant to edit one dictionary, which is hidden. -/
def draftStore : Store :=
  Store.empty.after [.createActor, .openSession ⟨1⟩, .createOrganization "editors",
    .addMember ⟨3⟩ ⟨1⟩, .createTemplate "perspective" "edit" [], .createGrant ⟨4⟩ .override,
    .assignToOrganization ⟨5⟩ ⟨3⟩, .createTemplate "dictionary" "edit" [],
    .createGrant ⟨6⟩ (.composite ⟨5, 42⟩), .assignToActor ⟨7⟩ ⟨1⟩,
    .setVisibility ⟨5, 42⟩ .hidden]

theorem member_edits_perspectives_and_one_dictionary :
    let service : Service := ⟨.standard, false, .general⟩
    let perspective : CheckInput := ⟨some ⟨2⟩, none, "edit", "perspective", .creation⟩
    let dictionary : CheckInput := ⟨some ⟨2⟩, none, "edit", "dictionary", .composite ⟨5, 42⟩⟩
    draftStore.consult (service.checkPermission perspective).run = .ok true ∧
      draftStore.consult
        (service.checkPermission { perspective with target := .composite ⟨8, 9⟩ }).run =
          .ok true ∧
      draftStore.visibility.get? ⟨5, 42⟩ = some .hidden ∧
      draftStore.consult (service.checkPermission dictionary).run = .ok true ∧
      draftStore.consult
        (service.checkPermission { dictionary with target := .single 42 }).run = .ok true :=
  ⟨by rfl,
    ((checkPermission_ordered_by_target draftStore ⟨.standard, false, .general⟩
      ⟨some ⟨2⟩, none, "edit", "perspective", .creation⟩).1 (by rfl)).2 ⟨8, 9⟩,
    by rfl, by rfl,
    (checkPermission_ordered_by_target draftStore ⟨.standard, false, .general⟩
      ⟨some ⟨2⟩, none, "edit", "dictionary", .composite ⟨5, 42⟩⟩).2 ⟨5, 42⟩
      (by rintro state hstate; cases hstate; decide) (by rfl)⟩

end Service

end AccessGrants
