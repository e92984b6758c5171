import AccessGrants.Proofs.Evaluator.Agreement

/-!
What the service decides over a store that nobody writes to. For a session that
resolves, the direct evaluator and the verifying one decide what the caller is
entitled to. For a session that does not, or for none, every evaluator allows
the reading of public instances and nothing else, whatever grants are stored.
-/

namespace AccessGrants

theorem Store.Decides.allows_iff {ε : Type} {store : Store}
    {call : ExceptT ε (Dialogue Read Read.Answer) Bool} {P : Prop} (h : store.Decides call P) :
    store.consult call.run = .ok true ↔ P := by
  obtain ⟨allowed, hallowed, hiff⟩ := h
  rw [hallowed, Except.ok.injEq]
  exact hiff

/-- Over two stores a call is answered alike if they decide it alike. -/
theorem Store.Decides.consult_eq {ε : Type} {store other : Store}
    {call : ExceptT ε (Dialogue Read Read.Answer) Bool} {P Q : Prop}
    (hstore : store.Decides call P) (hother : other.Decides call Q) (hsame : P ↔ Q) :
    other.consult call.run = store.consult call.run := by
  obtain ⟨allowed, hallowed, hiff⟩ := hstore
  obtain ⟨allowed', hallowed', hiff'⟩ := hother
  have heq : allowed' = allowed := by
    rw [Bool.eq_iff_iff, hiff, hiff', hsame]
  rw [hallowed, hallowed', heq]

namespace Service

/-- An inactive actor, member of an organization that holds the grant to view
one perspective, which is published. -/
def memberStore : Store :=
  Store.empty.after [.createActor, .openSession ⟨1⟩, .createOrganization "editors",
    .addMember ⟨3⟩ ⟨1⟩, .createTemplate "perspective" "view" [],
    .createGrant ⟨4⟩ (.composite ⟨5, 42⟩), .assignToOrganization ⟨5⟩ ⟨3⟩,
    .setActorActive ⟨1⟩ false, .setVisibility ⟨5, 42⟩ .published]

/-- The direct evaluator, alone or beside the general one, decides the declared
rules of entitlement for every caller. -/
theorem checkDirect_and_verify_decide_entitled (store : Store) (service : Service)
    (input : CheckInput) (actor : Actor)
    (resolves : store.callerOf (service.requestOf input).session = some actor) :
    store.Decides (service.checkDirect input)
        (store.Entitled service.policy actor (service.requestOf input)) ∧
      store.Decides ({ service with evaluator := .verify }.checkPermission input)
        (store.Entitled service.policy actor (service.requestOf input)) := by
  obtain ⟨general, direct, hgeneral, hdirect, hentitled, hgeneralIff⟩ :=
    Evaluator.verdicts_of_caller store service.policy resolves
  have hverify : { service with evaluator := .verify }.evaluator = Evaluator.verify := rfl
  have honeSided : direct = true → general = true := by
    intro hallowed
    exact hgeneralIff.mpr (Or.inl hallowed)
  exact ⟨⟨direct, consult_checkDirect hdirect, hentitled⟩,
    ⟨direct, consult_verify hverify hgeneral hdirect honeSided, hentitled⟩⟩

/-- A deactivated member views what its organization was granted. -/
theorem member_decided_by_cookie :
    let service : Service := ⟨.standard, true, .direct⟩
    let input : CheckInput := ⟨none, some " +2 ", "view", "perspective", .single 42⟩
    memberStore.callerOf (service.requestOf input).session = some ⟨⟨1⟩, false, false⟩ ∧
      memberStore.Decides (service.checkDirect input)
        (memberStore.Entitled service.policy ⟨⟨1⟩, false, false⟩ (service.requestOf input)) ∧
      memberStore.Decides ({ service with evaluator := .verify }.checkPermission input)
        (memberStore.Entitled service.policy ⟨⟨1⟩, false, false⟩ (service.requestOf input)) ∧
      memberStore.consult (service.checkDirect input).run = .ok true ∧
      memberStore.consult ({ service with evaluator := .verify }.checkPermission input).run =
        .ok true ∧
      memberStore.Entitled service.policy ⟨⟨1⟩, false, false⟩ (service.requestOf input) := by
  intro service input
  have hcaller : memberStore.callerOf (service.requestOf input).session =
      some ⟨⟨1⟩, false, false⟩ := rfl
  obtain ⟨hdirect, hverify⟩ :=
    checkDirect_and_verify_decide_entitled memberStore service input ⟨⟨1⟩, false, false⟩ hcaller
  have hallowed : memberStore.consult (service.checkDirect input).run = .ok true := rfl
  exact ⟨hcaller, hdirect, hverify, hallowed, rfl, hdirect.allows_iff.mp hallowed⟩

/-- For a caller the general evaluator, and no other, also allows what tokens
match. -/
theorem checkPermission_decides_for_caller (store : Store) (service : Service)
    (input : CheckInput) {actor : Actor}
    (resolves : store.callerOf (service.requestOf input).session = some actor) :
    store.Decides (service.checkPermission input)
      (store.Entitled service.policy actor (service.requestOf input) ∨
        service.evaluator = .general ∧ store.TokenMatched actor (service.requestOf input)) := by
  obtain ⟨general, direct, hgeneral, hdirect, hentitled, hgeneralIff⟩ :=
    Evaluator.verdicts_of_caller store service.policy resolves
  cases hevaluator : service.evaluator with
  | general =>
      simp only [checkPermission, hevaluator]
      refine ⟨general, consult_check hgeneral, ?_⟩
      rw [hgeneralIff, hentitled]
      simp
  | direct =>
      simp only [checkPermission, hevaluator]
      exact ⟨direct, consult_checkDirect hdirect, by simp [hentitled]⟩
  | verify =>
      have honeSided : direct = true → general = true := by
        intro hallowed
        exact hgeneralIff.mpr (Or.inl hallowed)
      exact ⟨direct, consult_verify hevaluator hgeneral hdirect honeSided, by simp [hentitled]⟩

/-- Without a caller the three evaluators decide the same. -/
theorem checkPermission_decides_without_caller (store : Store) (service : Service)
    (input : CheckInput)
    (unresolved : store.callerOf (service.requestOf input).session = none) :
    store.Decides (service.checkPermission input)
      (input.subject ∈ service.policy.anonymousSubjects ∧
        store.PubliclyReadable input.action input.target) := by
  obtain ⟨allowed, hgeneral, hdirect, hiff⟩ :=
    Evaluator.verdicts_without_caller store service.policy unresolved
  refine ⟨allowed, ?_, hiff⟩
  cases hevaluator : service.evaluator with
  | general =>
      simp only [checkPermission, hevaluator]
      exact consult_check hgeneral
  | direct =>
      simp only [checkPermission, hevaluator]
      exact consult_checkDirect hdirect
  | verify => exact consult_verify hevaluator hgeneral hdirect id

/-- Without a caller a request reaches public instances and nothing else. No
token of a grant is among those it is evaluated with, and a store with the same
states of instances gives the same answer, whatever else the two stores hold. -/
theorem without_caller_only_public_instances (store : Store) (service : Service)
    (input : CheckInput)
    (unresolved : store.callerOf (service.requestOf input).session = none) :
    store.Decides (service.checkPermission input)
        (input.subject ∈ service.policy.anonymousSubjects ∧
          store.PubliclyReadable input.action input.target) ∧
      (∃ resolution,
        store.consult (Principal.resolve (service.requestOf input).session
          (some input.subject)).run = .ok resolution ∧
        ∀ grant, Token.ofGrant grant ∉ resolution.held) ∧
      ∀ other : Store, other.callerOf (service.requestOf input).session = none →
        other.visibility = store.visibility →
        other.consult (service.checkPermission input).run =
          store.consult (service.checkPermission input).run := by
  have hdecides := checkPermission_decides_without_caller store service input unresolved
  refine ⟨hdecides, ?_, ?_⟩
  · obtain ⟨resolution, hresolution, hheld⟩ :=
      Store.consult_resolve_without_caller input.subject unresolved
    refine ⟨resolution, hresolution, ?_⟩
    intro grant hgrant
    rw [hheld, mem_anonymous] at hgrant
    exact Token.ofGrant_ne_everyone grant hgrant
  · intro other hother hvisibility
    apply hdecides.consult_eq
      (checkPermission_decides_without_caller other service input hother)
    simp only [Store.PubliclyReadable, hvisibility]

/-- A session that was never opened views the published perspective. -/
theorem unresolved_session_views_published :
    let service : Service := ⟨.standard, false, .verify⟩
    let input : CheckInput := ⟨some ⟨99⟩, none, "view", "perspective", .composite ⟨5, 42⟩⟩
    memberStore.callerOf (service.requestOf input).session = none ∧
      memberStore.consult (service.checkPermission input).run = .ok true ∧
      memberStore.Decides (service.checkPermission input)
        (input.subject ∈ service.policy.anonymousSubjects ∧
          memberStore.PubliclyReadable input.action input.target) ∧
      (∃ resolution,
        memberStore.consult (Principal.resolve (service.requestOf input).session
          (some input.subject)).run = .ok resolution ∧
        ∀ grant, Token.ofGrant grant ∉ resolution.held) ∧
      ∀ other : Store, other.callerOf (service.requestOf input).session = none →
        other.visibility = memberStore.visibility →
        other.consult (service.checkPermission input).run = .ok true := by
  intro service input
  have hcaller : memberStore.callerOf (service.requestOf input).session = none := rfl
  obtain ⟨hdecides, hheld, hsame⟩ :=
    without_caller_only_public_instances memberStore service input hcaller
  have hallowed : memberStore.consult (service.checkPermission input).run = .ok true := rfl
  refine ⟨hcaller, hallowed, hdecides, hheld, ?_⟩
  intro other hother hvisibility
  exact (hsame other hother hvisibility).trans hallowed

end Service

end AccessGrants
