import AccessGrants.Proofs.Decision

/-!
What a decision looks at. Two stores decide a request alike if they agree on
the caller of its session, on whether its target is publicly readable and on
the grants of that caller; a store in which the caller has more is one in which
every request that was allowed still is. The general evaluator also looks at
the grants that are stored, and needs to do so only where tokens are ambiguous.
-/

namespace AccessGrants

/-- No numeral makes up the subject type of the request, so that its tokens tell
grants apart. -/
def Request.Unambiguous (request : Request) : Prop :=
  ∀ client : Int64, ¬ Text.Repeats (Text.decimal client.toInt) request.subject

/-- A letter in the name of the subject type is enough. -/
theorem Request.unambiguous_of_mem {request : Request} (c : Char)
    (letter : c ≠ ':' ∧ c ≠ '-' ∧ c.isDigit = false) (h : c ∈ request.subject.toList) :
    request.Unambiguous := by
  intro client hrepeats
  obtain ⟨copies, hcopies⟩ := Text.repeats_iff.mp hrepeats
  rw [hcopies, Text.toList_decimal] at h
  obtain ⟨hcolon, hsign, hdigit⟩ := letter
  rcases Text.mem_copiesOf h with hnumeral | hjoint
  · rcases Text.mem_decimalChars hnumeral with hsign' | hdigit'
    · exact hsign hsign'
    · rw [hdigit] at hdigit'
      cases hdigit'
  · exact hcolon hjoint

namespace Store

/-- For the request the other store has the same caller, and what the caller may
rely on in the first it may rely on in the other. -/
structure Widens (request : Request) (store other : Store) : Prop where
  caller : other.callerOf request.session = store.callerOf request.session
  readable : store.PubliclyReadable request.action request.target →
    other.PubliclyReadable request.action request.target
  itself : ∀ actor, store.callerOf request.session = some actor → ∀ grant,
    grant.subject = request.subject →
    store.HoldsItself actor.id grant → other.HoldsItself actor.id grant
  asMember : ∀ actor, store.callerOf request.session = some actor → ∀ grant,
    grant.subject = request.subject →
    store.HoldsAsMember actor.id grant → other.HoldsAsMember actor.id grant

variable {request : Request} {store other third : Store} {policy : Policy} {actor : Actor}

theorem Widens.refl (request : Request) (store : Store) : Widens request store store where
  caller := rfl
  readable := id
  itself := fun _ _ _ _ held => held
  asMember := fun _ _ _ _ held => held

theorem Widens.trans (h : Widens request store other) (h' : Widens request other third) :
    Widens request store third where
  caller := h'.caller.trans h.caller
  readable := fun hreadable => h'.readable (h.readable hreadable)
  itself := by
    intro actor hcaller grant hsubject held
    exact h'.itself actor (h.caller.trans hcaller) grant hsubject
      (h.itself actor hcaller grant hsubject held)
  asMember := by
    intro actor hcaller grant hsubject held
    exact h'.asMember actor (h.caller.trans hcaller) grant hsubject
      (h.asMember actor hcaller grant hsubject held)

section Rights

variable (h : Widens request store other) (resolves : store.callerOf request.session = some actor)

include h resolves

theorem Widens.holds {grant : Grant} (subject : grant.subject = request.subject)
    (held : store.Holds actor.id grant) : other.Holds actor.id grant := by
  rcases held with hself | hmember
  · exact Or.inl (h.itself actor resolves grant subject hself)
  · exact Or.inr (h.asMember actor resolves grant subject hmember)

theorem Widens.entitled (entitled : store.Entitled policy actor request) :
    other.Entitled policy actor request := by
  rcases entitled with hsuper | ⟨hlisted, hreadable⟩ | ⟨husable, grant, hfits, hheld⟩
  · exact .superuser hsuper
  · exact .reader hlisted (h.readable hreadable)
  · refine .grantee ⟨husable, grant, hfits, ?_⟩
    rcases hheld with hself | ⟨hexisting, hmember⟩
    · exact Or.inl (h.itself actor resolves grant hfits.1 hself)
    · exact Or.inr ⟨hexisting, h.asMember actor resolves grant hfits.1 hmember⟩

theorem Widens.tokenMatched
    (stored : ∀ grant, request.Fits grant → store.StoresGrant grant → other.StoresGrant grant)
    (matched : store.TokenMatched actor request) : other.TokenMatched actor request := by
  obtain ⟨held, grant, hholds, hsubject, hactive, hstored, hfits, htoken⟩ := matched
  exact ⟨held, grant, h.holds resolves hsubject hholds, hsubject, hactive,
    stored grant hfits hstored, hfits, htoken⟩

/-- Where tokens tell grants apart, the token that is matched is that of a
fitting grant of the caller, which is stored because it is held. -/
theorem Widens.tokenMatched_of_unambiguous (unambiguous : request.Unambiguous)
    (matched : store.TokenMatched actor request) : other.TokenMatched actor request := by
  obtain ⟨held, grant, hholds, hsubject, hactive, hstored, hfits, htoken⟩ := matched
  rcases fits_or_lookalike hsubject hfits htoken with hheldFits | hlike
  · have husable : Policy.activationAllows actor request.action = true := by
      rw [← hheldFits.2.1]
      exact hactive
    exact (h.holds resolves hsubject hholds).tokenMatched hheldFits husable
  · have hmatched : store.LookalikeMatched actor request :=
      ⟨held, grant, hholds, hsubject, hactive, hstored, hfits, hlike⟩
    obtain ⟨client, hrepeats⟩ := hmatched.repeats
    exact absurd hrepeats (unambiguous client)

end Rights

end Store

namespace Evaluator

variable {request : Request} {store other : Store} (policy : Policy)

/-- Neither evaluator ever fails to answer over a store. -/
theorem verdicts_exist (store : Store) (request : Request) :
    ∃ general direct,
      store.consult (General.check policy request).run = .ok general ∧
      store.consult (Direct.check policy request).run = .ok direct := by
  cases hcaller : store.callerOf request.session with
  | none =>
      obtain ⟨allowed, hgeneral, hdirect, _⟩ := verdicts_without_caller store policy hcaller
      exact ⟨allowed, allowed, hgeneral, hdirect⟩
  | some actor =>
      obtain ⟨general, direct, hgeneral, hdirect, _⟩ := verdicts_of_caller store policy hcaller
      exact ⟨general, direct, hgeneral, hdirect⟩

theorem general_answers (store : Store) (request : Request) :
    ∃ allowed, store.consult (General.check policy request).run = .ok allowed := by
  obtain ⟨general, _, hgeneral, _⟩ := verdicts_exist policy store request
  exact ⟨general, hgeneral⟩

theorem direct_answers (store : Store) (request : Request) :
    ∃ allowed, store.consult (Direct.check policy request).run = .ok allowed := by
  obtain ⟨_, direct, _, hdirect⟩ := verdicts_exist policy store request
  exact ⟨direct, hdirect⟩

theorem direct_allows_of_widens (h : Store.Widens request store other)
    (allowed : store.consult (Direct.check policy request).run = .ok true) :
    other.consult (Direct.check policy request).run = .ok true := by
  cases hcaller : store.callerOf request.session with
  | none =>
      have hother : other.callerOf request.session = none := h.caller.trans hcaller
      rw [(Direct.check_decides_without_caller store policy hcaller).allows_iff] at allowed
      rw [(Direct.check_decides_without_caller other policy hother).allows_iff]
      exact ⟨allowed.1, h.readable allowed.2⟩
  | some actor =>
      have hother : other.callerOf request.session = some actor := h.caller.trans hcaller
      rw [(Direct.check_decides store policy hcaller).allows_iff] at allowed
      rw [(Direct.check_decides other policy hother).allows_iff]
      exact h.entitled hcaller allowed

theorem general_allows_of_widens (h : Store.Widens request store other)
    (tokens : ∀ actor, store.callerOf request.session = some actor →
      store.TokenMatched actor request → other.TokenMatched actor request)
    (allowed : store.consult (General.check policy request).run = .ok true) :
    other.consult (General.check policy request).run = .ok true := by
  cases hcaller : store.callerOf request.session with
  | none =>
      have hother : other.callerOf request.session = none := h.caller.trans hcaller
      rw [(General.check_decides_without_caller store policy hcaller).allows_iff] at allowed
      rw [(General.check_decides_without_caller other policy hother).allows_iff]
      exact ⟨allowed.1, h.readable allowed.2⟩
  | some actor =>
      have hother : other.callerOf request.session = some actor := h.caller.trans hcaller
      rw [(General.check_decides store policy hcaller).allows_iff] at allowed
      rw [(General.check_decides other policy hother).allows_iff]
      rcases allowed with hentitled | hmatched
      · exact Or.inl (h.entitled hcaller hentitled)
      · exact Or.inr (tokens actor hcaller hmatched)

/-- A verdict that is allowed on both sides or on neither is the same verdict. -/
theorem consult_eq_of_allows_iff {call : Inquiry Bool}
    (answers : ∃ allowed, store.consult call.run = .ok allowed)
    (answers' : ∃ allowed, other.consult call.run = .ok allowed)
    (same : store.consult call.run = .ok true ↔ other.consult call.run = .ok true) :
    other.consult call.run = store.consult call.run := by
  obtain ⟨allowed, hallowed⟩ := answers
  obtain ⟨allowed', hallowed'⟩ := answers'
  rw [hallowed, hallowed', Except.ok.injEq, Except.ok.injEq] at same
  rw [hallowed, hallowed', Except.ok.injEq, Bool.eq_iff_iff]
  exact same.symm

end Evaluator

end AccessGrants
