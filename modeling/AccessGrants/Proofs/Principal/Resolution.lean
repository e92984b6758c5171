import AccessGrants.Principal.Resolver
import AccessGrants.Proofs.Inquiry.Run
import AccessGrants.Proofs.Principal.Token
import AccessGrants.Proofs.Store.Holding

/-!
What a session resolves to over a store that nobody writes to. The caller of a
session is the actor whose rows lead from it; the tokens of a caller are those
of its usable grants beside the reserved ones, and a session without a caller
is evaluated with the token of everyone alone.
-/

namespace AccessGrants.Store

open Principal

/-- The actor that a session stands for, if a session is given and resolves. -/
def callerOf (store : Store) (session : Option SessionId) : Option Actor :=
  session.bind store.actorForSession

/-- The tokens that an actor holds on a subject type. -/
def principalsOf (store : Store) (actor : Actor) (subject : String) : PrincipalSet :=
  addGrants actor
    (store.actorGrantsOf actor.id (some subject) ++
      store.organizationGrantsOf actor.id (some subject))
    ((reserved actor).insert Token.authenticated)

variable {store : Store} {actor : Actor} {subject : String} {session : Option SessionId}

theorem run_resolveActor :
    (resolveActor actor (some subject)).run.run still store =
      ⟨.ok (.resolved actor (store.principalsOf actor subject)),
        [.principalsResolved actor.id subject (store.principalsOf actor subject).size], store⟩ := by
  refine (store.run_readThen (.actorGrants actor.id (some subject)) _).trans ?_
  refine (store.run_readThen (.organizationGrants actor.id (some subject)) _).trans ?_
  rfl

section Sessions

variable {id : SessionId} (filter : Option String)

theorem run_resolve (h : store.callerOf (some id) = some actor) :
    (resolve (some id) filter).run.run still store =
      (resolveActor actor filter).run.run still store := by
  have hactor : store.read (.actorForSession id) = some actor := h
  refine (store.run_readThen (.actorForSession id) _).trans ?_
  rw [hactor]

theorem run_resolve_without_caller (h : store.callerOf (some id) = none) :
    (resolve (some id) filter).run.run still store =
      ⟨.ok (.invalidSession id), [.sessionUnresolved id], store⟩ := by
  have hactor : store.read (.actorForSession id) = none := h
  refine (store.run_readThen (.actorForSession id) _).trans ?_
  rw [hactor]
  rfl

end Sessions

theorem consult_resolve (h : store.callerOf session = some actor) :
    store.consult (resolve session (some subject)).run =
      .ok (.resolved actor (store.principalsOf actor subject)) := by
  cases session with
  | none => cases h
  | some session =>
      exact congrArg Dialogue.Run.result ((run_resolve (some subject) h).trans run_resolveActor)

/-- Without a caller it makes no difference whether a session was given. -/
theorem consult_resolve_without_caller (subject : String)
    (h : store.callerOf session = none) :
    ∃ resolution, store.consult (resolve session (some subject)).run = .ok resolution ∧
      resolution.held = PrincipalSet.anonymous := by
  cases session with
  | none => exact ⟨.anonymous, rfl, rfl⟩
  | some session =>
      exact ⟨.invalidSession session,
        congrArg Dialogue.Run.result (run_resolve_without_caller (some subject) h), rfl⟩

theorem mem_insertTokens {grants : List Grant} {held : PrincipalSet} {token : Token} :
    token ∈ grants.foldl (fun held grant => held.insert (Token.ofGrant grant)) held ↔
      token ∈ held ∨ ∃ grant ∈ grants, token = Token.ofGrant grant :=
  SortedSet.mem_foldl_insert

theorem mem_reserved {token : Token} :
    token ∈ reserved actor ↔ actor.superuser = true ∧ token = Token.admin := by
  unfold reserved
  split
  · next h => simp [h]
  · next h => simp [h]

/-- The tokens of a caller: the superuser's, the one of all callers, and those
of its grants on the subject type that its activation lets it use. -/
theorem mem_principalsOf {token : Token} :
    token ∈ store.principalsOf actor subject ↔
      (actor.superuser = true ∧ token = Token.admin) ∨ token = Token.authenticated ∨
        ∃ grant, store.Holds actor.id grant ∧ grant.subject = subject ∧
          Policy.activationAllows actor grant.action = true ∧ token = Token.ofGrant grant := by
  unfold principalsOf addGrants
  rw [mem_insertTokens, SortedSet.mem_insert, mem_reserved]
  simp only [List.mem_filter, mem_heldOfSubject]
  constructor
  · rintro ((hauthenticated | hadmin) | ⟨grant, ⟨⟨hheld, hsubject⟩, hactive⟩, heq⟩)
    · exact Or.inr (Or.inl hauthenticated)
    · exact Or.inl hadmin
    · exact Or.inr (Or.inr ⟨grant, hheld, hsubject, hactive, heq⟩)
  · rintro (hadmin | hauthenticated | ⟨grant, hheld, hsubject, hactive, heq⟩)
    · exact Or.inl (Or.inr hadmin)
    · exact Or.inl (Or.inl hauthenticated)
    · exact Or.inr ⟨grant, ⟨⟨hheld, hsubject⟩, hactive⟩, heq⟩

theorem admin_mem_principalsOf :
    Token.admin ∈ store.principalsOf actor subject ↔ actor.superuser = true := by
  have hauthenticated : Token.admin ≠ Token.authenticated := by decide
  have hgrant (grant : Grant) : Token.admin ≠ Token.ofGrant grant :=
    (Token.ofGrant_ne_admin grant).symm
  simp [mem_principalsOf, hauthenticated, hgrant]

theorem authenticated_mem_principalsOf :
    Token.authenticated ∈ store.principalsOf actor subject :=
  mem_principalsOf.mpr (Or.inr (Or.inl rfl))

theorem everyone_not_mem_principalsOf :
    Token.everyone ∉ store.principalsOf actor subject := by
  have hadmin : Token.everyone ≠ Token.admin := by decide
  have hauthenticated : Token.everyone ≠ Token.authenticated := by decide
  have hgrant (grant : Grant) : Token.everyone ≠ Token.ofGrant grant :=
    (Token.ofGrant_ne_everyone grant).symm
  simp [mem_principalsOf, hadmin, hauthenticated, hgrant]

theorem ofGrant_mem_principalsOf {grant : Grant} :
    Token.ofGrant grant ∈ store.principalsOf actor subject ↔
      ∃ held, store.Holds actor.id held ∧ held.subject = subject ∧
        Policy.activationAllows actor held.action = true ∧
        Token.ofGrant grant = Token.ofGrant held := by
  simp [mem_principalsOf]

end AccessGrants.Store

namespace AccessGrants

@[simp] theorem mem_anonymous {token : Token} :
    token ∈ PrincipalSet.anonymous ↔ token = Token.everyone := by
  simp [PrincipalSet.anonymous]

end AccessGrants
