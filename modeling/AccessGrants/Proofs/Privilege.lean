import AccessGrants.Proofs.Decision

/-!
The reserved tokens and the superuser's bypass. The texts of subject types and
actions are anyone's choice, but no grant's token is a reserved one, so a
caller holds the superuser's token by being a superuser and in no other way.
-/

namespace AccessGrants

namespace Principal

/-- The tokens of a caller, with or without a subject type to look for. -/
def tokensOf (store : Store) (actor : Actor) : Option String → PrincipalSet
  | none => reserved actor
  | some subject => store.principalsOf actor subject

variable {store : Store} {actor : Actor} {session : Option SessionId}

theorem consult_resolve_tokens (filter : Option String)
    (h : store.callerOf session = some actor) :
    store.consult (resolve session filter).run =
      .ok (.resolved actor (tokensOf store actor filter)) := by
  cases filter with
  | some subject => exact Store.consult_resolve h
  | none =>
      cases session with
      | none => cases h
      | some session => exact congrArg Dialogue.Run.result (Store.run_resolve none h)

theorem admin_mem_tokensOf (filter : Option String) :
    Token.admin ∈ tokensOf store actor filter ↔ actor.superuser = true := by
  cases filter with
  | none => simp [tokensOf, Store.mem_reserved]
  | some subject => exact Store.admin_mem_principalsOf

theorem authenticated_mem_tokensOf (filter : Option String) :
    Token.authenticated ∈ tokensOf store actor filter ↔ filter.isSome = true := by
  have hadmin : Token.authenticated ≠ Token.admin := by decide
  cases filter with
  | none => simp [tokensOf, Store.mem_reserved, hadmin]
  | some subject => simp [tokensOf, Store.authenticated_mem_principalsOf]

theorem everyone_not_mem_tokensOf (filter : Option String) :
    Token.everyone ∉ tokensOf store actor filter := by
  have hadmin : Token.everyone ≠ Token.admin := by decide
  cases filter with
  | none => simp [tokensOf, Store.mem_reserved, hadmin]
  | some subject => exact Store.everyone_not_mem_principalsOf

/-- Whoever asks, with a session that resolves or without one, has the
superuser's token exactly for a superuser. -/
theorem resolve_admin_iff (store : Store) (session : Option SessionId) (subject : String) :
    ∃ resolution, store.consult (resolve session (some subject)).run = .ok resolution ∧
      (Token.admin ∈ resolution.held ↔
        ∃ actor, store.callerOf session = some actor ∧ actor.superuser = true) := by
  cases hcaller : store.callerOf session with
  | none =>
      have hadmin : Token.admin ≠ Token.everyone := by decide
      obtain ⟨resolution, hresolution, hheld⟩ :=
        Store.consult_resolve_without_caller subject hcaller
      refine ⟨resolution, hresolution, ?_⟩
      simp [hheld, hadmin]
  | some actor =>
      refine ⟨_, Store.consult_resolve hcaller, ?_⟩
      simp [Resolution.held, Store.admin_mem_principalsOf]

end Principal

namespace Acl

/-- The entry at the head of every list that is made of grants. -/
def superuserEntry : Entry := ⟨.allow, Token.admin, .all⟩

theorem superuserEntry_applies_iff {held : PrincipalSet} {action : String} :
    superuserEntry.appliesTo held action = true ↔ Token.admin ∈ held := by
  simp [superuserEntry, Entry.appliesTo, Permission.permits]

theorem superuserEntry_mem_acl {store : Store} {policy : Policy} {subject : String}
    {target : Target} : superuserEntry ∈ store.acl policy subject target :=
  mem_acl.mpr (Or.inl rfl)

end Acl

namespace Service

/-- Reserved tokens and what they are good for, over one store. -/
structure ReservedExactly (store : Store) (session : Option SessionId) (actor : Actor) : Prop where
  /-- What the actor of the session holds, whatever the texts of its grants. -/
  held : ∀ filter : Option String, ∃ principals,
    store.consult (Principal.resolve session filter).run = .ok (.resolved actor principals) ∧
    (Token.admin ∈ principals ↔ actor.superuser = true) ∧
    (Token.authenticated ∈ principals ↔ filter.isSome = true) ∧
    Token.everyone ∉ principals
  /-- The superuser's entry is in every list, and no other caller meets it. -/
  matched : ∀ (policy : Policy) (caller : Option SessionId) (subject action : String)
    (target : Target), ∃ resolution acl,
    store.consult (Principal.resolve caller (some subject)).run = .ok resolution ∧
    store.consult (Acl.ofGrants policy subject target).run = .ok acl ∧
    Acl.superuserEntry ∈ acl ∧
    (Acl.superuserEntry.appliesTo resolution.held action = true ↔
      ∃ superuser, store.callerOf caller = some superuser ∧ superuser.superuser = true)
  /-- No evaluator asks a superuser for more, not even to be active. -/
  bypass : actor.superuser = true → ∀ (service : Service) (input : CheckInput),
    (service.requestOf input).session = session →
    store.consult (service.checkPermission input).run = .ok true

/-- The reserved tokens are held by those that they are meant for, and a
superuser is allowed everything. -/
theorem reserved_tokens_exact (store : Store) (session : Option SessionId) (actor : Actor)
    (resolves : store.callerOf session = some actor) : ReservedExactly store session actor where
  held := by
    intro filter
    exact ⟨_, Principal.consult_resolve_tokens filter resolves,
      Principal.admin_mem_tokensOf filter, Principal.authenticated_mem_tokensOf filter,
      Principal.everyone_not_mem_tokensOf filter⟩
  matched := by
    intro policy caller subject action target
    obtain ⟨resolution, hresolution, hadmin⟩ := Principal.resolve_admin_iff store caller subject
    refine ⟨resolution, _, hresolution, Store.consult_ofGrants, Acl.superuserEntry_mem_acl, ?_⟩
    rw [Acl.superuserEntry_applies_iff, hadmin]
  bypass := by
    rintro hsuper service input rfl
    have hdecides := checkPermission_decides_for_caller store service input resolves
    exact hdecides.allows_iff.mpr (Or.inl (.superuser hsuper))

/-- A store in which subject type and action have the names of reserved tokens.
Its one actor is a superuser that has been deactivated. -/
def namesakeStore : Store :=
  Store.empty.after [.createActor, .openSession ⟨1⟩,
    .createTemplate "system.Everyone" "Admin" [], .createGrant ⟨3⟩ .override,
    .assignToActor ⟨4⟩ ⟨1⟩, .setActorSuperuser ⟨1⟩ true, .setActorActive ⟨1⟩ false]

/-- The superuser holds the two reserved tokens by their texts, and does what nobody
was granted. -/
theorem reserved_tokens_of_namesakes :
    let service : Service := ⟨.standard, false, .direct⟩
    let input : CheckInput := ⟨some ⟨2⟩, none, "edit", "dictionary", .single 7⟩
    namesakeStore.callerOf (some ⟨2⟩) = some ⟨⟨1⟩, false, true⟩ ∧
      ReservedExactly namesakeStore (some ⟨2⟩) ⟨⟨1⟩, false, true⟩ ∧
      namesakeStore.consult (Principal.resolve (some ⟨2⟩) (some "system.Everyone")).run =
        .ok (.resolved ⟨⟨1⟩, false, true⟩ (.ofList [⟨"Admin"⟩, ⟨"system.Authenticated"⟩])) ∧
      namesakeStore.consult (service.checkPermission input).run = .ok true := by
  intro service input
  have hcaller : namesakeStore.callerOf (some ⟨2⟩) = some ⟨⟨1⟩, false, true⟩ := rfl
  have hreserved := reserved_tokens_exact namesakeStore (some ⟨2⟩) ⟨⟨1⟩, false, true⟩ hcaller
  exact ⟨hcaller, hreserved, rfl, hreserved.bypass rfl service input rfl⟩

end Service

end AccessGrants
