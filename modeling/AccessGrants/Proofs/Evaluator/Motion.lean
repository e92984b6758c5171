import AccessGrants.Proofs.Evaluator.Widening
import AccessGrants.Proofs.Store.Interleaving

/-!
The evaluators over a store in motion. What one of them decides while others
write is what it decides over one store, put together of views of successive
moments. Nobody loses a grant meanwhile, so this store stands between an earlier
and a later one wherever the caller and the state of the target are the same.
-/

namespace AccessGrants

open Store

namespace Store.Views

variable {views : Views} {request : Request}

theorem storesGrant_blend {grant : Grant} :
    views.blend.StoresGrant grant ↔ views.stored.StoresGrant grant :=
  Iff.rfl

variable (h : views.Coherent)

include h

theorem Coherent.widens_blend {earlier : Store}
    (caller : views.caller.callerOf request.session = earlier.callerOf request.session)
    (readable : earlier.PubliclyReadable request.action request.target →
      views.visible.PubliclyReadable request.action request.target)
    (own : earlier.Extends views.own) (inherited : earlier.Extends views.inherited) :
    Widens request earlier views.blend where
  caller := caller
  readable := readable
  itself := fun _ _ _ _ held => h.holdsItself_blend.mpr (held.extend own)
  asMember := fun _ _ _ _ held => h.holdsAsMember_blend.mpr (held.extend inherited)

theorem Coherent.blend_widens {later : Store}
    (caller : later.callerOf request.session = views.caller.callerOf request.session)
    (readable : views.visible.PubliclyReadable request.action request.target →
      later.PubliclyReadable request.action request.target)
    (own : views.own.Extends later) (inherited : views.inherited.Extends later) :
    Widens request views.blend later where
  caller := caller
  readable := readable
  itself := fun _ _ _ _ held => (h.holdsItself_blend.mp held).extend own
  asMember := fun _ _ _ _ held => (h.holdsAsMember_blend.mp held).extend inherited

end Store.Views

variable {store : Store} {others : List Write} (h : store.Integral)
  (bound : (store.after others).issued < numberLimit)

/-- The views of the general evaluator at the moments of its stages. -/
def General.views (store : Store) (others : List Write) (moments : Nat → Nat) : Views :=
  ⟨store.during others (moments 0), store.during others (moments 1),
    store.during others (moments 2), store.during others (moments 3),
    store.during others (moments 4)⟩

/-- The views of the direct evaluator at the moments of its stages. It never
lists the stored grants. -/
def Direct.views (store : Store) (others : List Write) (moments : Nat → Nat) : Views :=
  ⟨store.during others (moments 0), store.during others (moments 2),
    store.during others (moments 3), store.during others (moments 1),
    store.during others (moments 3)⟩

section Views

variable (moments : Nat → Nat) {question : Read}

/-- The reads that the general evaluator makes look at the moments of their stages. -/
theorem General.of_views (made : stage question < 5) :
    (General.views store others moments).of question =
      store.during others (moments (stage question)) := by
  cases question with
  | grantExistsForActor | grantExistsForOrganizations => exact absurd made (Nat.lt_irrefl 5)
  | _ => rfl

theorem Direct.of_views (made : stage question < 4) :
    (Direct.views store others moments).of question =
      store.during others (moments (stage question)) := by
  cases question with
  | actorGrants | organizationGrants | subjectGrants => exact absurd made (Nat.lt_irrefl 4)
  | _ => rfl

end Views

/-- What is decided in stages while others write is decided by views of successive
moments, if each read looks at the moment of its stage. -/
theorem Inquiry.Orderly.amid_views {stage : Read → Nat} {last : Nat} {check : Inquiry Bool}
    (orderly : Orderly stage last 0 check.run) {views : (Nat → Nat) → Views}
    (coherent : ∀ {moments}, Monotone moments → (views moments).Coherent)
    (looks : ∀ moments {question}, stage question < last →
      (views moments).of question = store.during others (moments (stage question)))
    (clock : Clock) :
    ∃ moments : Nat → Nat, Monotone moments ∧
      (∀ number, clock.moment ≤ moments number ∧
        moments number ≤ (check.run.run (store.amid others) clock).state.moment) ∧
      (clock.waits.headD 0 = 0 → moments 0 = clock.moment) ∧
      (check.run.run (store.amid others) clock).result =
        (views moments).blend.consult check.run := by
  obtain ⟨moments, hmono, hbounds, hfirst, hblended⟩ := orderly.amid store others clock
  refine ⟨moments, hmono, hbounds, hfirst, hblended _ ?_⟩
  intro question _ hlast
  rw [(coherent hmono).read_blend, looks moments hlast]

include h bound

/-- Views of which the grants are read at the last moment. -/
theorem coherent_during (caller visible : Store) {own inherited stored : Nat}
    (hown : own ≤ stored) (hinherited : inherited ≤ stored) :
    Views.Coherent ⟨caller, store.during others own, store.during others inherited, visible,
      store.during others stored⟩ where
  own := (integral_during h bound _).linked
  inherited := (integral_during h bound _).linked
  ownGrants := (extends_during h bound hown).grants
  inheritedGrants := (extends_during h bound hinherited).grants

theorem General.coherent_views {moments : Nat → Nat} (hmono : Monotone moments) :
    (General.views store others moments).Coherent :=
  coherent_during h bound _ _ (hmono (by omega)) (hmono (by omega))

theorem Direct.coherent_views {moments : Nat → Nat} (hmono : Monotone moments) :
    (Direct.views store others moments).Coherent :=
  coherent_during h bound _ _ (hmono (by omega)) (Nat.le_refl _)

end AccessGrants
