import AccessGrants.Proofs.Decision
import AccessGrants.Proofs.Store.Refusal

/-!
Deactivated actors. A grant of theirs is of use for viewing only, so beyond
viewing they keep what needs no grant: previewing the public instances of the
public subject types. The general evaluator agrees wherever a token names one
grant, because the tokens that are left to such an actor are those of grants to
view. Reactivating an actor takes nothing away from it.
-/

namespace AccessGrants

theorem Policy.activationAllows_inactive {actor : Actor} {action : String}
    (inactive : actor.active = false) :
    activationAllows actor action = true ↔ action = viewAction := by
  simp [activationAllows_iff, inactive]

namespace Store

variable {store : Store} {policy : Policy} {actor : Actor} {request : Request}

/-- Of the two actions that only read, preview is the one beyond viewing. -/
theorem publiclyReadable_beyond_view {action : String} {target : Target}
    (beyond : action ≠ Policy.viewAction) :
    store.PubliclyReadable action target ↔
      action = Policy.previewAction ∧ ∃ id state, target = .composite id ∧
        store.visibility.get? id = some state ∧ (state = .published ∨ state = .limitedAccess) := by
  constructor
  · rintro ⟨id, state, htarget, hstate, hpublic, hview | hpreview⟩
    · exact absurd hview beyond
    · exact ⟨hpreview, id, state, htarget, hstate, hpublic⟩
  · rintro ⟨hpreview, id, state, htarget, hstate, hpublic⟩
    exact ⟨id, state, htarget, hstate, hpublic, Or.inr hpreview⟩

/-- No grant entitles a deactivated actor to more than viewing. -/
theorem entitled_inactive_iff (inactive : actor.active = false)
    (ordinary : actor.superuser = false) (beyond : request.action ≠ Policy.viewAction) :
    store.Entitled policy actor request ↔
      request.subject ∈ policy.publicSubjects ∧
        store.PubliclyReadable request.action request.target := by
  constructor
  · rintro (hsuper | ⟨hlisted, hreadable⟩ | ⟨hactive | hview, _⟩)
    · rw [ordinary] at hsuper
      cases hsuper
    · exact ⟨hlisted, hreadable⟩
    · rw [inactive] at hactive
      cases hactive
    · exact absurd hview beyond
  · rintro ⟨hlisted, hreadable⟩
    exact .reader hlisted hreadable

/-- The token of a grant to view is that of a grant for another action only if
the subject type is made of copies of one numeral. -/
theorem not_tokenMatched_inactive (inactive : actor.active = false)
    (beyond : request.action ≠ Policy.viewAction)
    (unambiguous : ∀ client : Int64,
      ¬ Text.Repeats (Text.decimal client.toInt) request.subject) :
    ¬ store.TokenMatched actor request := by
  rintro ⟨held, stored, hholds, hsubject, hactive, hstored, hfits, htoken⟩
  have hview : held.action = Policy.viewAction :=
    (Policy.activationAllows_inactive inactive).mp hactive
  rcases fits_or_lookalike hsubject hfits htoken with hheldFits | hlike
  · exact beyond (hheldFits.2.1.symm.trans hview)
  · have hmatched : store.LookalikeMatched actor request :=
      ⟨held, stored, hholds, hsubject, hactive, hstored, hfits, hlike⟩
    obtain ⟨client, hrepeats⟩ := hmatched.repeats
    exact unambiguous client hrepeats

/-- The store in which the actor of a row is active. -/
def activate (store : Store) (actor : Actor) : Store :=
  { store with actors := store.actors.insert actor.id { actor with active := true } }

/-- Rows of actors are found under the identifier that they carry, so it is the
caller's own row that is written. -/
theorem write_activate {session : Option SessionId} (keyed : store.Keyed)
    (resolves : store.callerOf session = some actor) :
    store.write (.setActorActive actor.id true) = (.ok (), store.activate actor) ∧
      (store.activate actor).callerOf session = some { actor with active := true } := by
  cases session with
  | none => cases resolves
  | some session =>
      have hfound : store.actorForSession session = some actor := resolves
      obtain ⟨id, hsession, hactor⟩ := Option.bind_eq_some_iff.mp hfound
      have hid : actor.id = id := keyed.actors id actor hactor
      subst hid
      constructor
      · change store.setActorActive actor.id true = _
        simp only [setActorActive, updateActor, hactor, activate]
      · change ((store.activate actor).sessions.get? session).bind _ = _
        rw [activate, hsession, Option.bind_some, Table.get?_insert, if_pos rfl]

theorem Entitled.activate (h : store.Entitled policy actor request) :
    (store.activate actor).Entitled policy { actor with active := true } request := by
  rcases h with hsuper | ⟨hlisted, hreadable⟩ | ⟨_, grant, hfits, hheld⟩
  · exact .superuser hsuper
  · exact .reader hlisted hreadable
  · exact .grantee ⟨Or.inl rfl, grant, hfits, hheld⟩

theorem TokenMatched.activate (h : store.TokenMatched actor request) :
    (store.activate actor).TokenMatched { actor with active := true } request := by
  obtain ⟨held, stored, hholds, hsubject, _, hstored, hfits, htoken⟩ := h
  have husable : Policy.activationAllows { actor with active := true } held.action = true :=
    Policy.activationAllows_iff.mpr (Or.inl rfl)
  exact ⟨held, stored, hholds, hsubject, husable, hstored, hfits, htoken⟩

end Store

namespace Service

/-- What is left to a deactivated caller, and what reactivation makes of it. -/
structure KeepsReading (store : Store) (service : Service) (input : CheckInput) (actor : Actor) :
    Prop where
  /-- Beyond viewing it previews public instances, whatever grants are stored.
  The general evaluator may take one token for another on subject types that
  are copies of one numeral, and on no others. -/
  beyondView : actor.superuser = false → input.action ≠ Policy.viewAction →
    (service.evaluator = .general →
      ∀ client : Int64, ¬ Text.Repeats (Text.decimal client.toInt) input.subject) →
    store.Decides (service.checkPermission input)
      (input.subject ∈ service.policy.publicSubjects ∧ input.action = Policy.previewAction ∧
        ∃ id state, input.target = .composite id ∧ store.visibility.get? id = some state ∧
          (state = .published ∨ state = .limitedAccess))
  /-- Reactivation succeeds and takes nothing away. -/
  reactivated : ∃ after, store.write (.setActorActive actor.id true) = (.ok (), after) ∧
    (store.consult (service.checkPermission input).run = .ok true →
      after.consult (service.checkPermission input).run = .ok true)

/-- Deactivated actors keep reading, under every evaluator. -/
theorem inactive_keeps_reading (writes : List Write) (service : Service) (input : CheckInput)
    (actor : Actor)
    (resolves : (Store.empty.after writes).callerOf (service.requestOf input).session = some actor)
    (inactive : actor.active = false) :
    KeepsReading (Store.empty.after writes) service input actor where
  beyondView := by
    intro ordinary beyond unambiguous
    obtain ⟨allowed, hallowed, hiff⟩ :=
      checkPermission_decides_for_caller (Store.empty.after writes) service input resolves
    refine ⟨allowed, hallowed, hiff.trans ?_⟩
    have hnotMatched : ¬ (service.evaluator = .general ∧
        (Store.empty.after writes).TokenMatched actor (service.requestOf input)) := by
      rintro ⟨hgeneral, hmatched⟩
      exact Store.not_tokenMatched_inactive inactive beyond (unambiguous hgeneral) hmatched
    rw [or_iff_left hnotMatched, Store.entitled_inactive_iff inactive ordinary beyond]
    exact and_congr_right fun _ => Store.publiclyReadable_beyond_view beyond
  reactivated := by
    obtain ⟨hwrite, hcaller⟩ := Store.write_activate (Store.keyed_after writes) resolves
    refine ⟨_, hwrite, ?_⟩
    have hbefore :=
      checkPermission_decides_for_caller (Store.empty.after writes) service input resolves
    have hafter := checkPermission_decides_for_caller _ service input hcaller
    rw [hbefore.allows_iff, hafter.allows_iff]
    rintro (hentitled | ⟨hgeneral, hmatched⟩)
    · exact Or.inl hentitled.activate
    · exact Or.inr ⟨hgeneral, hmatched.activate⟩

/-- The owner of a published instance is deactivated. -/
def deactivation : List Write :=
  [.createActor, .openSession ⟨1⟩, .createTemplate "approve_entities" "edit" [.perspective],
    .provisionDefaults .perspective ⟨5, 42⟩ ⟨1⟩, .setVisibility ⟨5, 42⟩ .published,
    .setActorActive ⟨1⟩ false]

/-- The owner still views and previews the instance, and no longer edits it. -/
theorem deactivated_owner_keeps_reading :
    let service : Service := ⟨.standard, false, .general⟩
    let input (action : String) : CheckInput :=
      ⟨some ⟨2⟩, none, action, "approve_entities", .composite ⟨5, 42⟩⟩
    let owner : Actor := ⟨⟨1⟩, false, false⟩
    let store := Store.empty.after deactivation
    (∀ action, store.callerOf (service.requestOf (input action)).session = some owner) ∧
      owner.active = false ∧
      (∀ action, KeepsReading store service (input action) owner) ∧
      store.consult (service.checkPermission (input "view")).run = .ok true ∧
      store.consult (service.checkPermission (input "preview")).run = .ok true ∧
      store.consult (service.checkPermission (input "edit")).run = .ok false ∧
      ∃ after, store.write (.setActorActive owner.id true) = (.ok (), after) ∧
        after.consult (service.checkPermission (input "preview")).run = .ok true := by
  intro service input owner store
  have hcaller (action : String) :
      store.callerOf (service.requestOf (input action)).session = some owner := rfl
  have hkeeps (action : String) : KeepsReading store service (input action) owner :=
    inactive_keeps_reading deactivation service (input action) owner (hcaller action) rfl
  have hview : store.consult (service.checkPermission (input "view")).run = .ok true := by
    decide +kernel
  have hpreview : store.consult (service.checkPermission (input "preview")).run = .ok true := by
    decide +kernel
  have hedit : store.consult (service.checkPermission (input "edit")).run = .ok false := by
    decide +kernel
  obtain ⟨after, hwrite, hkept⟩ := (hkeeps "preview").reactivated
  exact ⟨hcaller, rfl, hkeeps, hview, hpreview, hedit, after, hwrite, hkept hpreview⟩

end Service

end AccessGrants
