import AccessGrants.Evaluator.General
import AccessGrants.Proofs.Acl
import AccessGrants.Proofs.Principal.Token

/-!
What the general evaluator allows over a store. Its tokens meet its list in
three ways only, because no grant's token is a reserved one: the superuser's
entry, an entry of the readers of a public instance, or a token that a usable
grant of the caller shares with a stored grant that fits the request.
-/

namespace AccessGrants

namespace Store

/-- The caller and the list name one token: that of a usable grant of the
caller, and that of a stored grant that fits the request. -/
def TokenMatched (store : Store) (actor : Actor) (request : Request) : Prop :=
  ∃ held stored, store.Holds actor.id held ∧ held.subject = request.subject ∧
    Policy.activationAllows actor held.action = true ∧
    store.StoresGrant stored ∧ request.Fits stored ∧
    Token.ofGrant held = Token.ofGrant stored

variable {store : Store} {actor : Actor} {request : Request}

/-- A token of the list is among the caller's tokens. -/
theorem tokenMatched_iff :
    store.TokenMatched actor request ↔
      ∃ grant, store.StoresGrant grant ∧ request.Fits grant ∧
        Token.ofGrant grant ∈ store.principalsOf actor request.subject := by
  simp only [ofGrant_mem_principalsOf]
  constructor
  · rintro ⟨held, stored, hholds, hsubject, hactive, hstored, hfits, htoken⟩
    exact ⟨stored, hstored, hfits, held, hholds, hsubject, hactive, htoken.symm⟩
  · rintro ⟨stored, hstored, hfits, held, hholds, hsubject, hactive, htoken⟩
    exact ⟨held, stored, hholds, hsubject, hactive, hstored, hfits, htoken.symm⟩

/-- A fitting grant is matched by its own token. -/
theorem Holds.tokenMatched {grant : Grant} (hholds : store.Holds actor.id grant)
    (hfits : request.Fits grant)
    (husable : Policy.activationAllows actor request.action = true) :
    store.TokenMatched actor request := by
  have hactive : Policy.activationAllows actor grant.action = true := by
    rw [hfits.2.1]
    exact husable
  exact ⟨grant, grant, hholds, hfits.1, hactive, hholds.stored, hfits, rfl⟩

theorem Granted.tokenMatched (h : store.Granted actor request) :
    store.TokenMatched actor request := by
  obtain ⟨husable, grant, hfits, hheld⟩ := h
  have hholds : store.Holds actor.id grant := by
    rcases hheld with hself | ⟨_, hmember⟩
    · exact Or.inl hself
    · exact Or.inr hmember
  exact hholds.tokenMatched hfits (Policy.activationAllows_iff.mpr husable)

end Store

namespace General

/-- Nothing is asked any more, so it does not matter who the partner is. -/
theorem run_decide {σ : Type} {partner : (question : Read) → σ → question.Answer × σ}
    (held : PrincipalSet) (action : String) (acl : List Acl.Entry) (state : σ) :
    (decide held action acl).run.run partner state =
      ⟨.ok ((Acl.decisive? held action acl).any fun entry => entry.verdict == .allow),
        ((Acl.decisive? held action acl).map fun entry =>
          Event.entryMatched entry.principal (entry.verdict == .allow)).toList, state⟩ := by
  unfold decide
  cases Acl.decisive? held action acl with
  | none => rfl
  | some entry => rfl

variable (store : Store) (policy : Policy) {actor : Actor} {request : Request}

theorem consult_decide (held : PrincipalSet) (action : String) (acl : List Acl.Entry) :
    store.consult (decide held action acl).run =
      .ok ((Acl.decisive? held action acl).any fun entry => entry.verdict == .allow) :=
  congrArg Dialogue.Run.result (run_decide held action acl store)

/-- Whatever the session resolves to, the request is allowed when the caller
meets an entry that permits the action. -/
theorem check_decides_held {resolution : Resolution}
    (h : store.consult (Principal.resolve request.session (some request.subject)).run =
      .ok resolution) :
    store.Decides (check policy request)
      (Token.admin ∈ resolution.held ∨
        (store.PubliclyReadable request.action request.target ∧
          ∃ principal ∈ Acl.readers policy request.subject, principal ∈ resolution.held) ∨
        ∃ grant, store.StoresGrant grant ∧ request.Fits grant ∧
          Token.ofGrant grant ∈ resolution.held) := by
  rw [← Acl.exists_entry_iff]
  refine ⟨_, ?_, Acl.decisive?_allows_iff fun entry hmem => Acl.verdict_of_mem_acl hmem⟩
  unfold check checkWith
  rw [Store.consult_call_bind _ _ h, Store.consult_call_bind _ _ Store.consult_ofGrants]
  exact consult_decide store _ _ _

/-- The general evaluator allows what the caller is entitled to, and what the
tokens of its grants match. -/
theorem check_decides (h : store.callerOf request.session = some actor) :
    store.Decides (check policy request)
      (store.Entitled policy actor request ∨ store.TokenMatched actor request) := by
  obtain ⟨allowed, hallowed, hiff⟩ :=
    check_decides_held store policy (Store.consult_resolve h)
  refine ⟨allowed, hallowed, hiff.trans ?_⟩
  simp only [Resolution.held]
  rw [Store.admin_mem_principalsOf, ← Store.tokenMatched_iff]
  constructor
  -- A caller holds the token of all callers and never that of everyone, so the
  -- only readers it can be one of are those of the public subject types.
  · rintro (hsuper | ⟨hreadable, principal, hreader, hheld⟩ | hmatched)
    · exact Or.inl (.superuser hsuper)
    · rcases Acl.mem_readers.mp hreader with ⟨_, rfl⟩ | ⟨hlisted, rfl⟩
      · exact absurd hheld Store.everyone_not_mem_principalsOf
      · exact Or.inl (.reader hlisted hreadable)
    · exact Or.inr hmatched
  · rintro ((hsuper | ⟨hlisted, hreadable⟩ | hgranted) | hmatched)
    · exact Or.inl hsuper
    · exact Or.inr (Or.inl ⟨hreadable, Token.authenticated,
        Acl.mem_readers.mpr (Or.inr ⟨hlisted, rfl⟩), Store.authenticated_mem_principalsOf⟩)
    · exact Or.inr (Or.inr hgranted.tokenMatched)
    · exact Or.inr (Or.inr hmatched)

theorem check_decides_without_caller (h : store.callerOf request.session = none) :
    store.Decides (check policy request)
      (request.subject ∈ policy.anonymousSubjects ∧
        store.PubliclyReadable request.action request.target) := by
  obtain ⟨resolution, hresolution, hheld⟩ := Store.consult_resolve_without_caller request.subject h
  obtain ⟨allowed, hallowed, hiff⟩ := check_decides_held store policy hresolution
  refine ⟨allowed, hallowed, hiff.trans ?_⟩
  have hadmin : Token.admin ≠ Token.everyone := by decide
  have hauthenticated : Token.everyone ≠ Token.authenticated := by decide
  rw [hheld]
  simp [Acl.mem_readers, hadmin, hauthenticated, and_comm]

end General

end AccessGrants
