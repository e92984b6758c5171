import AccessGrants.Proofs.Collection.SortedSet
import AccessGrants.Proofs.Privilege

/-!
The tokens that a session resolves to, as a list. Beside the reserved tokens there
is one for each grant of the subject type that the actor holds, itself or through
an organization, and may use; a token that comes from several grants or over
several links is there once. The list is strictly ascending by the bytes of the
tokens, and its length is what the log says.
-/

namespace AccessGrants

open Std

namespace Token

theorem compare_bytes_lt_iff {xs ys : List UInt8} : compare xs ys = .lt ↔ xs < ys := by
  rw [List.compare_eq_compareLex]
  induction xs generalizing ys with
  | nil =>
      cases ys with
      | nil => simp [List.compareLex_nil_nil]
      | cons y ys => simp [List.compareLex_nil_cons]
  | cons x xs ih =>
      cases ys with
      | nil => simp [List.compareLex_cons_nil]
      | cons y ys =>
          rw [List.compareLex_cons_cons, Ordering.then_eq_lt, ih, List.cons_lt_cons_iff,
            compare_eq_lt, LawfulEqOrd.compare_eq_iff_eq]

/-- Tokens are ordered as their bytes are, the first difference deciding. -/
theorem compare_lt_iff {a b : Token} : compare a b = .lt ↔ a.bytes < b.bytes :=
  compare_bytes_lt_iff

end Token

namespace Principal

/-- The token is that of a grant on the subject type which the actor holds, itself
or as a member, and which it may use. -/
def Grants (store : Store) (actor : Actor) (subject : String) (token : Token) : Prop :=
  ∃ grant, store.StoresGrant grant ∧ store.Holds actor.id grant ∧ grant.subject = subject ∧
    (actor.active = true ∨ grant.action = Policy.viewAction) ∧ token = Token.ofGrant grant

/-- The set holds what the actor is to hold, and is listed in order. -/
structure Exact (store : Store) (actor : Actor) (filter : Option String)
    (principals : PrincipalSet) : Prop where
  admin : Token.admin ∈ principals ↔ actor.superuser = true
  authenticated : Token.authenticated ∈ principals ↔ filter.isSome = true
  granted : ∀ token,
    (token ∈ principals ∧ token ≠ Token.admin ∧ token ≠ Token.authenticated) ↔
      ∃ subject, filter = some subject ∧ Grants store actor subject token
  ascending : principals.toList.Pairwise fun a b => a.bytes < b.bytes
  nodup : principals.toList.Nodup

/-- Only the tokens on a subject type are counted in the log. -/
def log (actor : Actor) (principals : PrincipalSet) : Option String → List Event
  | none => []
  | some subject => [.principalsResolved actor.id subject principals.toList.length]

/-- What a resolution leaves of a run over a store that nobody writes to. -/
structure ResolvesExactly (store : Store) (filter : Option String) : Prop where
  anonymous : (resolve none filter).run.run Store.still store = ⟨.ok .anonymous, [], store⟩
  unresolved : ∀ session, store.callerOf (some session) = none →
    (resolve (some session) filter).run.run Store.still store =
      ⟨.ok (.invalidSession session), [.sessionUnresolved session], store⟩
  resolved : ∀ session actor, store.callerOf (some session) = some actor →
    ∃ principals, Exact store actor filter principals ∧
      (resolve (some session) filter).run.run Store.still store =
        ⟨.ok (.resolved actor principals), log actor principals filter, store⟩

variable {store : Store} {actor : Actor} {session : SessionId}

theorem granted_mem_tokensOf (filter : Option String) (token : Token) :
    (token ∈ tokensOf store actor filter ∧ token ≠ Token.admin ∧ token ≠ Token.authenticated) ↔
      ∃ subject, filter = some subject ∧ Grants store actor subject token := by
  cases filter with
  | none =>
      simp only [tokensOf, Store.mem_reserved]
      constructor
      · rintro ⟨⟨_, hadmin⟩, hother, _⟩
        exact absurd hadmin hother
      · rintro ⟨_, hfilter, _⟩
        cases hfilter
  | some subject =>
      simp only [tokensOf, Store.mem_principalsOf, Policy.activationAllows_iff]
      constructor
      · rintro ⟨⟨_, hadmin⟩ | hauthenticated | ⟨grant, hheld, hsubject, hactive, htoken⟩,
          hother, hdifferent⟩
        · exact absurd hadmin hother
        · exact absurd hauthenticated hdifferent
        · exact ⟨subject, rfl, grant, hheld.stored, hheld, hsubject, hactive, htoken⟩
      · rintro ⟨_, hfilter, grant, _, hheld, hsubject, hactive, rfl⟩
        cases hfilter
        exact ⟨Or.inr (Or.inr ⟨grant, hheld, hsubject, hactive, rfl⟩),
          Token.ofGrant_ne_admin grant, Token.ofGrant_ne_authenticated grant⟩

theorem exact_tokensOf (store : Store) (actor : Actor) (filter : Option String) :
    Exact store actor filter (tokensOf store actor filter) where
  admin := admin_mem_tokensOf filter
  authenticated := authenticated_mem_tokensOf filter
  granted := granted_mem_tokensOf filter
  ascending := (tokensOf store actor filter).ascending.imp Token.compare_lt_iff.mp
  nodup := SortedSet.nodup_of_ascending (tokensOf store actor filter).ascending

theorem run_resolveActor_tokens (store : Store) (actor : Actor) (filter : Option String) :
    (resolveActor actor filter).run.run Store.still store =
      ⟨.ok (.resolved actor (tokensOf store actor filter)),
        log actor (tokensOf store actor filter) filter, store⟩ := by
  cases filter with
  | none => rfl
  | some subject => exact Store.run_resolveActor

/-- Every session and every filter is resolved so, whatever the store. -/
theorem resolution_exact (store : Store) (filter : Option String) :
    ResolvesExactly store filter where
  anonymous := rfl
  unresolved := fun _ hcaller => Store.run_resolve_without_caller filter hcaller
  resolved := by
    intro session actor hcaller
    refine ⟨tokensOf store actor filter, exact_tokensOf store actor filter, ?_⟩
    rw [Store.run_resolve filter hcaller, run_resolveActor_tokens]

/-- Two grants have one token. The actor holds one of them itself and through two
organizations, the other through one of these. -/
def manifold : Store :=
  Store.empty.after [.createActor, .openSession ⟨1⟩, .createOrganization "editors",
    .createOrganization "reviewers", .addMember ⟨3⟩ ⟨1⟩, .addMember ⟨4⟩ ⟨1⟩,
    .createTemplate "1" "view" [], .createTemplate "1" "view:1" [],
    .createGrant ⟨5⟩ (.composite ⟨1, 5⟩), .createGrant ⟨6⟩ (.object 5), .assignToActor ⟨7⟩ ⟨1⟩,
    .assignToOrganization ⟨7⟩ ⟨3⟩, .assignToOrganization ⟨7⟩ ⟨4⟩, .assignToOrganization ⟨8⟩ ⟨3⟩]

theorem manifold_token_resolved_once :
    manifold.callerOf (some ⟨2⟩) = some ⟨⟨1⟩, true, false⟩ ∧
      ∃ principals, Exact manifold ⟨⟨1⟩, true, false⟩ (some "1") principals ∧
        principals.toList = [Token.authenticated, ⟨"view:1:1:5"⟩] ∧
        (resolve (some ⟨2⟩) (some "1")).run.run Store.still manifold =
          ⟨.ok (.resolved ⟨⟨1⟩, true, false⟩ principals), [.principalsResolved ⟨1⟩ "1" 2],
            manifold⟩ := by
  have hcaller : manifold.callerOf (some ⟨2⟩) = some ⟨⟨1⟩, true, false⟩ := by rfl
  obtain ⟨principals, hexact, hrun⟩ :=
    (resolution_exact manifold (some "1")).resolved ⟨2⟩ ⟨⟨1⟩, true, false⟩ hcaller
  have hresult : ((resolve (some ⟨2⟩) (some "1")).run.run Store.still manifold).result =
      .ok (.resolved ⟨⟨1⟩, true, false⟩ (tokensOf manifold ⟨⟨1⟩, true, false⟩ (some "1"))) :=
    consult_resolve_tokens (some "1") hcaller
  have hset : principals = tokensOf manifold ⟨⟨1⟩, true, false⟩ (some "1") := by
    rw [hrun] at hresult
    injection hresult with hresolution
    injection hresolution
  have hlisted : principals.toList = [Token.authenticated, ⟨"view:1:1:5"⟩] := by
    rw [hset]
    decide
  refine ⟨hcaller, principals, hexact, hlisted, ?_⟩
  rw [hrun, log, hlisted]
  rfl

end Principal

end AccessGrants
