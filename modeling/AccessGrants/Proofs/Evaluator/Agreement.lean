import AccessGrants.Proofs.Service
import AccessGrants.Proofs.Store.Change

/-!
Where the two evaluators agree. A fitting grant that the caller has a use of
is matched by its own token, so whatever the direct evaluator allows the
general one allows. The converse fails in two ways: the general evaluator lets
an organization's override create, and it takes a lookalike of a fitting grant
for the grant itself.
-/

namespace AccessGrants

namespace Store

/-- A fitting override that an organization of the actor holds, and none that
the actor holds itself, for an instance that does not exist yet. -/
structure InheritedCreation (store : Store) (actor : Actor) (request : Request) : Prop where
  creation : request.target = .creation
  inherited : ∃ grant, store.HoldsAsMember actor.id grant ∧ request.Fits grant ∧
    grant.scope = .override
  notOwn : ¬ ∃ grant, store.HoldsItself actor.id grant ∧ request.Fits grant ∧
    grant.scope = .override

/-- Some grant of the actor has the token of a fitting grant of another action. -/
def TokenShared (store : Store) (actor : Actor) (request : Request) : Prop :=
  ∃ held stored, store.Holds actor.id held ∧ store.StoresGrant stored ∧
    request.Fits stored ∧ Token.ofGrant held = Token.ofGrant stored ∧
    held.action ≠ stored.action

/-- A usable grant of the actor and a stored grant that fits the request are
lookalikes, in one order or the other. -/
def LookalikeMatched (store : Store) (actor : Actor) (request : Request) : Prop :=
  ∃ held stored, store.Holds actor.id held ∧ held.subject = request.subject ∧
    Policy.activationAllows actor held.action = true ∧
    store.StoresGrant stored ∧ request.Fits stored ∧
    (Token.Lookalike held stored ∨ Token.Lookalike stored held)

variable {store : Store} {actor : Actor} {request : Request}

/-- A usable grant that fits is a grant to the actor, unless it is an
organization's and the target is yet to be created. -/
theorem granted_or_inheritedCreation {grant : Grant} (hholds : store.Holds actor.id grant)
    (hactive : Policy.activationAllows actor grant.action = true) (hfits : request.Fits grant) :
    store.Granted actor request ∨ store.InheritedCreation actor request := by
  have husable : actor.active = true ∨ request.action = Policy.viewAction := by
    rw [← hfits.2.1]
    exact Policy.activationAllows_iff.mp hactive
  -- A fitting grant of the actor's own settles every target, creation included.
  by_cases hown : ∃ own, store.HoldsItself actor.id own ∧ request.Fits own
  · obtain ⟨own, hself, hownFits⟩ := hown
    exact Or.inl ⟨husable, own, hownFits, Or.inl hself⟩
  · rcases hholds with hself | hmember
    · exact absurd ⟨grant, hself, hfits⟩ hown
    · by_cases hcreation : request.target = .creation
      · have hscope : grant.scope = .override := hfits.scope_of_creation hcreation
        refine Or.inr ⟨hcreation, ⟨grant, hmember, hfits, hscope⟩, ?_⟩
        rintro ⟨own, hself, hownFits, _⟩
        exact hown ⟨own, hself, hownFits⟩
      · exact Or.inl ⟨husable, grant, hfits, Or.inr ⟨hcreation, hmember⟩⟩

/-- A grant with the token of a fitting grant fits as well, or is a lookalike. -/
theorem fits_or_lookalike {held stored : Grant} (hsubject : held.subject = request.subject)
    (hfits : request.Fits stored) (htoken : Token.ofGrant held = Token.ofGrant stored) :
    request.Fits held ∨ Token.Lookalike held stored ∨ Token.Lookalike stored held := by
  rcases (Token.ofGrant_eq_iff (hsubject.trans hfits.1.symm)).mp htoken with
    ⟨haction, hscope⟩ | hlike
  · refine Or.inl ⟨hsubject, haction.trans hfits.2.1, ?_⟩
    rw [hscope]
    exact hfits.2.2
  · exact Or.inr hlike

/-- The three ways in which tokens match. -/
theorem TokenMatched.cases (h : store.TokenMatched actor request) :
    store.Granted actor request ∨ store.InheritedCreation actor request ∨
      store.LookalikeMatched actor request := by
  obtain ⟨held, stored, hholds, hsubject, hactive, hstored, hfits, htoken⟩ := h
  rcases fits_or_lookalike hsubject hfits htoken with hheldFits | hlike
  · rcases granted_or_inheritedCreation hholds hactive hheldFits with hgranted | hinherited
    · exact Or.inl hgranted
    · exact Or.inr (Or.inl hinherited)
  · exact Or.inr (Or.inr ⟨held, stored, hholds, hsubject, hactive, hstored, hfits, hlike⟩)

/-- What tokens match beyond the rights of the caller. -/
theorem TokenMatched.beyond_entitlement {policy : Policy}
    (h : store.TokenMatched actor request) (hdenied : ¬ store.Entitled policy actor request) :
    store.InheritedCreation actor request ∨ store.LookalikeMatched actor request := by
  rcases h.cases with hgranted | hbeyond
  · exact absurd (.grantee hgranted) hdenied
  · exact hbeyond

theorem LookalikeMatched.tokenMatched (h : store.LookalikeMatched actor request) :
    store.TokenMatched actor request := by
  obtain ⟨held, stored, hholds, hsubject, hactive, hstored, hfits, hlike⟩ := h
  have hsame : held.subject = stored.subject := hsubject.trans hfits.1.symm
  exact ⟨held, stored, hholds, hsubject, hactive, hstored, hfits,
    (Token.ofGrant_eq_iff hsame).mpr (Or.inr hlike)⟩

theorem LookalikeMatched.tokenShared (h : store.LookalikeMatched actor request) :
    store.TokenShared actor request := by
  obtain ⟨held, stored, hholds, hsubject, _, hstored, hfits, hlike⟩ := h
  have hsame : held.subject = stored.subject := hsubject.trans hfits.1.symm
  refine ⟨held, stored, hholds, hstored, hfits,
    (Token.ofGrant_eq_iff hsame).mpr (Or.inr hlike), ?_⟩
  rcases hlike with hlike | hlike
  · exact hlike.action_ne.symm
  · exact hlike.action_ne

theorem LookalikeMatched.repeats (h : store.LookalikeMatched actor request) :
    ∃ client : Int64, Text.Repeats (Text.decimal client.toInt) request.subject := by
  obtain ⟨held, stored, _, hsubject, _, _, hfits, hlike⟩ := h
  rcases hlike with ⟨client, _, _, _, _, hrepeats⟩ | ⟨client, _, _, _, _, hrepeats⟩
  · exact ⟨client, hsubject ▸ hrepeats⟩
  · exact ⟨client, hfits.1 ▸ hrepeats⟩

/-- An organization's override has its own token in the list. -/
theorem InheritedCreation.tokenMatched (h : store.InheritedCreation actor request)
    (hactive : Policy.activationAllows actor request.action = true) :
    store.TokenMatched actor request := by
  obtain ⟨grant, hmember, hfits, _⟩ := h.inherited
  have hholds : store.Holds actor.id grant := Or.inr hmember
  exact hholds.tokenMatched hfits hactive

theorem InheritedCreation.not_granted (h : store.InheritedCreation actor request) :
    ¬ store.Granted actor request := by
  rintro ⟨_, grant, hfits, hself | ⟨hexisting, _⟩⟩
  · have hscope : grant.scope = .override := hfits.scope_of_creation h.creation
    exact h.notOwn ⟨grant, hself, hfits, hscope⟩
  · exact hexisting h.creation

/-- Nothing else lets the actor create: what does not exist yet is no public
instance. -/
theorem InheritedCreation.not_entitled {policy : Policy}
    (h : store.InheritedCreation actor request) (hactor : actor.superuser = false) :
    ¬ store.Entitled policy actor request := by
  rintro (hsuper | ⟨_, hreadable⟩ | hgranted)
  · rw [hactor] at hsuper
    cases hsuper
  · rw [h.creation] at hreadable
    exact not_publiclyReadable_creation hreadable
  · exact h.not_granted hgranted

end Store

namespace Evaluator

/-- For a caller the evaluators differ in the matching of tokens alone. -/
theorem verdicts_of_caller (store : Store) (policy : Policy) {actor : Actor} {request : Request}
    (h : store.callerOf request.session = some actor) :
    ∃ general direct,
      store.consult (General.check policy request).run = .ok general ∧
      store.consult (Direct.check policy request).run = .ok direct ∧
      (direct = true ↔ store.Entitled policy actor request) ∧
      (general = true ↔ direct = true ∨ store.TokenMatched actor request) := by
  obtain ⟨general, hgeneral, hgeneralIff⟩ := General.check_decides store policy h
  obtain ⟨direct, hdirect, hdirectIff⟩ := Direct.check_decides store policy h
  rw [← hdirectIff] at hgeneralIff
  exact ⟨general, direct, hgeneral, hdirect, hdirectIff, hgeneralIff⟩

/-- Without a caller they do not differ. -/
theorem verdicts_without_caller (store : Store) (policy : Policy) {request : Request}
    (h : store.callerOf request.session = none) :
    ∃ allowed,
      store.consult (General.check policy request).run = .ok allowed ∧
      store.consult (Direct.check policy request).run = .ok allowed ∧
      (allowed = true ↔ request.subject ∈ policy.anonymousSubjects ∧
        store.PubliclyReadable request.action request.target) := by
  obtain ⟨general, hgeneral, hgeneralIff⟩ :=
    General.check_decides_without_caller store policy h
  obtain ⟨direct, hdirect, hdirectIff⟩ := Direct.check_decides_without_caller store policy h
  have hsame : direct = general := by
    rw [Bool.eq_iff_iff, hgeneralIff, hdirectIff]
  subst hsame
  exact ⟨direct, hgeneral, hdirect, hdirectIff⟩

private theorem verdicts_ne_iff {general direct : Bool} {matched : Prop}
    (h : general = true ↔ direct = true ∨ matched) :
    general ≠ direct ↔ ¬ direct = true ∧ matched := by
  cases direct with
  | false =>
      simp only [Bool.false_eq_true, false_or] at h
      simp [h]
  | true => simp [h]

/-- On targets that exist the evaluators differ exactly for a caller that is
not entitled to the request but has a usable lookalike of a grant that fits it.
There is none unless the subject type is made of copies of one numeral. -/
theorem verdicts_differ_iff_lookalike (store : Store) (policy : Policy) (request : Request)
    (existing : request.target ≠ .creation) :
    ∃ general direct,
      store.consult (General.check policy request).run = .ok general ∧
      store.consult (Direct.check policy request).run = .ok direct ∧
      (general ≠ direct ↔
        ∃ actor, store.callerOf request.session = some actor ∧
          ¬ store.Entitled policy actor request ∧ store.LookalikeMatched actor request) ∧
      ((∀ client : Int64, ¬ Text.Repeats (Text.decimal client.toInt) request.subject) →
        general = direct) := by
  cases hcaller : store.callerOf request.session with
  | none =>
      obtain ⟨allowed, hgeneral, hdirect, _⟩ := verdicts_without_caller store policy hcaller
      refine ⟨allowed, allowed, hgeneral, hdirect, ?_, fun _ => rfl⟩
      simp
  | some actor =>
      obtain ⟨general, direct, hgeneral, hdirect, hdirectIff, hgeneralIff⟩ :=
        verdicts_of_caller store policy hcaller
      have hdiffer : general ≠ direct ↔
          ¬ store.Entitled policy actor request ∧ store.LookalikeMatched actor request := by
        rw [verdicts_ne_iff hgeneralIff, hdirectIff]
        constructor
        · rintro ⟨hdenied, hmatched⟩
          rcases hmatched.beyond_entitlement hdenied with hinherited | hlike
          · exact absurd hinherited.creation existing
          · exact ⟨hdenied, hlike⟩
        · rintro ⟨hdenied, hlike⟩
          exact ⟨hdenied, hlike.tokenMatched⟩
      refine ⟨general, direct, hgeneral, hdirect, ?_, ?_⟩
      · simpa using hdiffer
      · intro hsubject
        by_cases hsame : general = direct
        · exact hsame
        · obtain ⟨_, hlike⟩ := hdiffer.mp hsame
          obtain ⟨client, hrepeats⟩ := hlike.repeats
          exact absurd hrepeats (hsubject client)

/-- A store of one actor, which holds the grant to `view` the instance `5:5` of
the subject type `5`. Beside it there is a grant to `view:5` the object `5`. -/
def lookalikeStore : Store :=
  Store.empty.after [.createActor, .openSession ⟨1⟩, .createTemplate "5" "view" [],
    .createTemplate "5" "view:5" [], .createGrant ⟨3⟩ (.composite ⟨5, 5⟩),
    .createGrant ⟨4⟩ (.object 5), .assignToActor ⟨5⟩ ⟨1⟩]

/-- The action of the grant that the actor does not hold. -/
def lookalikeRequest : Request := ⟨some ⟨2⟩, "view:5", "5", .single 5⟩

/-- The evaluators do not agree on all targets that exist. -/
theorem verdicts_not_always_equal :
    ¬ ∀ (writes : List Write) (policy : Policy) (request : Request),
      request.target ≠ .creation →
      (Store.empty.after writes).consult (General.check policy request).run =
        (Store.empty.after writes).consult (Direct.check policy request).run := by
  intro hequal
  have hgeneral : lookalikeStore.consult (General.check .standard lookalikeRequest).run =
      .ok true := by rfl
  have hdirect : lookalikeStore.consult (Direct.check .standard lookalikeRequest).run =
      .ok false := by rfl
  have hsame := hgeneral.symm.trans
    ((hequal _ .standard lookalikeRequest (by decide)).trans hdirect)
  cases hsame

theorem lookalike_verdicts_differ :
    lookalikeRequest.target ≠ .creation ∧
      ∃ general direct,
        lookalikeStore.consult (General.check .standard lookalikeRequest).run = .ok general ∧
        lookalikeStore.consult (Direct.check .standard lookalikeRequest).run = .ok direct ∧
        (general ≠ direct ↔
          ∃ actor, lookalikeStore.callerOf lookalikeRequest.session = some actor ∧
            ¬ lookalikeStore.Entitled .standard actor lookalikeRequest ∧
            lookalikeStore.LookalikeMatched actor lookalikeRequest) ∧
        ((∀ client : Int64,
            ¬ Text.Repeats (Text.decimal client.toInt) lookalikeRequest.subject) →
          general = direct) :=
  ⟨by decide, verdicts_differ_iff_lookalike lookalikeStore .standard lookalikeRequest
    (by decide)⟩

/-- How far the evaluators are apart, on targets of any shape. -/
theorem divergence_is_one_sided (store : Store) (policy : Policy) (request : Request) :
    ∃ general direct,
      store.consult (General.check policy request).run = .ok general ∧
      store.consult (Direct.check policy request).run = .ok direct ∧
      (direct = true → general = true) ∧
      (∀ (service : Service) (input : CheckInput), service.policy = policy →
        service.evaluator = .verify → service.requestOf input = request →
        store.consult (service.checkPermission input).run = .ok direct) ∧
      (general ≠ direct →
        ∃ actor, store.callerOf request.session = some actor ∧ actor.superuser = false ∧
          (store.InheritedCreation actor request ∨ store.TokenShared actor request)) ∧
      (∀ actor, store.callerOf request.session = some actor → actor.superuser = false →
        store.InheritedCreation actor request →
        Policy.activationAllows actor request.action = true →
        general = true ∧ direct = false) := by
  cases hcaller : store.callerOf request.session with
  | none =>
      obtain ⟨allowed, hgeneral, hdirect, _⟩ := verdicts_without_caller store policy hcaller
      refine ⟨allowed, allowed, hgeneral, hdirect, id, ?_, fun hne => absurd rfl hne, ?_⟩
      · rintro service input rfl hverify rfl
        exact Service.consult_verify hverify hgeneral hdirect id
      · intro actor hactor
        cases hactor
  | some actor =>
      obtain ⟨general, direct, hgeneral, hdirect, hdirectIff, hgeneralIff⟩ :=
        verdicts_of_caller store policy hcaller
      have honeSided : direct = true → general = true := by
        intro hallowed
        exact hgeneralIff.mpr (Or.inl hallowed)
      refine ⟨general, direct, hgeneral, hdirect, honeSided, ?_, ?_, ?_⟩
      · rintro service input rfl hverify rfl
        exact Service.consult_verify hverify hgeneral hdirect honeSided
      · intro hne
        obtain ⟨hdenied, hmatched⟩ := (verdicts_ne_iff hgeneralIff).mp hne
        rw [hdirectIff] at hdenied
        have hnotSuperuser : actor.superuser = false := by
          rw [Bool.eq_false_iff]
          intro hsuper
          exact hdenied (.superuser hsuper)
        refine ⟨actor, rfl, hnotSuperuser, ?_⟩
        rcases hmatched.beyond_entitlement hdenied with hinherited | hlike
        · exact Or.inl hinherited
        · exact Or.inr hlike.tokenShared
      · intro actor' hactor hnotSuperuser hinherited hactive
        cases hactor
        constructor
        · apply hgeneralIff.mpr
          exact Or.inr (hinherited.tokenMatched hactive)
        · rw [Bool.eq_false_iff]
          intro hallowed
          exact hinherited.not_entitled hnotSuperuser (hdirectIff.mp hallowed)

end Evaluator

end AccessGrants
