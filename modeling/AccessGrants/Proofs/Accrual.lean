import AccessGrants.Proofs.Evaluator.Motion
import AccessGrants.Proofs.Influence
import AccessGrants.Proofs.Service.Transcript

/-!
Access accrues. A write that sets no flag of an actor and no state of an
instance only adds rows and links, so a request that was allowed stays allowed
after it, and so it is with any number of such writes that fall between the
reads of one check. The session has to be absent or to resolve already: opening
one puts a caller in the place of nobody.
-/

namespace AccessGrants

/-- The writes that set nothing that was there. -/
def Write.isAdditive : Write → Bool
  | .setActorActive _ _ | .setActorSuperuser _ _ | .setVisibility _ _ => false
  | _ => true

namespace Store

/-- There is no session, or it resolves. -/
def Settled (store : Store) (session : Option SessionId) : Prop :=
  session = none ∨ ∃ actor, store.callerOf session = some actor

variable {store : Store} {others : List Write} {write : Write} {request : Request}

/-- The session that is answered is a new one. -/
theorem not_mem_of_openSession {actor : ActorId} {session : SessionId} (h : store.Integral)
    (bound : (store.openSession actor).2.issued < numberLimit)
    (opens : (store.openSession actor).1 = .ok session) : session ∉ store.sessions := by
  simp only [openSession] at bound opens
  split at opens
  · next hstored =>
      rw [if_pos hstored] at bound
      cases opens
      exact h.numbered.fresh bound rfl
  · cases opens

/-- A session that resolves is not opened again. -/
theorem callerOf_additive (h : store.Integral)
    (bound : (store.write write).2.issued < numberLimit) (additive : write.isAdditive = true)
    {session : Option SessionId} (settled : store.Settled session) :
    (store.write write).2.callerOf session = store.callerOf session := by
  rcases callerOf_write h bound session with
    hsame | ⟨id, actor, rfl, rfl, hopens⟩ | ⟨actor, flag, _, rfl | rfl⟩
  · exact hsame
  · rcases settled with hnone | ⟨caller, hcaller⟩
    · cases hnone
    · have hresolves : store.actorForSession id = some caller := hcaller
      obtain ⟨row, hrow, _⟩ := Option.bind_eq_some_iff.mp hresolves
      exact absurd (Table.mem_of_get? hrow) (not_mem_of_openSession h bound hopens)
  · cases additive
  · cases additive

theorem widens_of_additive (h : store.Integral)
    (bound : (store.write write).2.issued < numberLimit) (additive : write.isAdditive = true)
    (settled : store.Settled request.session) : Widens request store (store.write write).2 := by
  apply widens_write h bound (callerOf_additive h bound additive settled)
  rcases store.publiclyReadable_write write request.action request.target with
    hsame | ⟨id, state, _, rfl⟩
  · exact hsame.mpr
  · cases additive

/-- One write after the other. -/
theorem widens_after (h : store.Integral) (bound : (store.after others).issued < numberLimit)
    (additive : ∀ write ∈ others, write.isAdditive = true)
    (settled : store.Settled request.session) : Widens request store (store.after others) := by
  induction others generalizing store with
  | nil => exact .refl request store
  | cons write rest ih =>
      obtain ⟨hwrite, hrest⟩ := List.forall_mem_cons.mp additive
      have hlater : (store.write write).2.issued ≤ (store.after (write :: rest)).issued :=
        issued_le_after (Changes.keyed (store.write_outcome h.keyed write).changes h.keyed) rest
      have hbound := Nat.lt_of_le_of_lt hlater bound
      have hintegral : (store.write write).2.Integral :=
        Changes.integral (store.write_outcome h.keyed write).changes hbound h
      have hfirst := widens_of_additive h hbound hwrite settled
      have hsettled : (store.write write).2.Settled request.session := by
        rw [Settled, hfirst.caller]
        exact settled
      exact hfirst.trans (ih hintegral bound hrest hsettled)

section Motion

variable (h : store.Integral) (bound : (store.after others).issued < numberLimit)
  (additive : ∀ write ∈ others, write.isAdditive = true) (settled : store.Settled request.session)

include h bound additive settled

theorem widens_during (moment : Nat) : Widens request store (store.during others moment) := by
  have hbound := Nat.lt_of_le_of_lt (issued_during_le h others moment) bound
  apply widens_after h hbound _ settled
  intro write hmem
  exact additive write (List.mem_of_mem_take hmem)

theorem during_widens (moment : Nat) :
    Widens request (store.during others moment) (store.after others) := by
  have hsplit : store.after others = (store.during others moment).after (others.drop moment) := by
    rw [during, ← after_append, List.take_append_drop]
  have hsettled : (store.during others moment).Settled request.session := by
    rw [Settled, (widens_during h bound additive settled moment).caller]
    exact settled
  rw [hsplit] at bound ⊢
  apply widens_after (integral_during h (hsplit ▸ bound) moment) bound _ hsettled
  intro write hmem
  exact additive write (List.mem_of_mem_drop hmem)

/-- Views of any moments stand between the store before and the store after. -/
theorem widens_of_views {views : Views} (coherent : views.Coherent)
    (caller own inherited visible : Nat)
    (hcaller : views.caller = store.during others caller)
    (hown : views.own = store.during others own)
    (hinherited : views.inherited = store.during others inherited)
    (hvisible : views.visible = store.during others visible) :
    Widens request store views.blend ∧ Widens request views.blend (store.after others) := by
  constructor
  · apply coherent.widens_blend
    · rw [hcaller]
      exact (widens_during h bound additive settled caller).caller
    · rw [hvisible]
      exact (widens_during h bound additive settled visible).readable
    · rw [hown]
      exact extends_to_during h bound own
    · rw [hinherited]
      exact extends_to_during h bound inherited
  · apply coherent.blend_widens
    · rw [hcaller]
      exact (during_widens h bound additive settled caller).caller
    · rw [hvisible]
      exact (during_widens h bound additive settled visible).readable
    · rw [hown]
      exact extends_during_after h bound own
    · rw [hinherited]
      exact extends_during_after h bound inherited

end Motion

end Store

namespace Evaluator

open Store

/-- A call that is answered before the writes of others, amid them and after
them, and whose answer can only turn into an allowance. -/
def Accrues {ε : Type} (store : Store) (others : List Write) (clock : Clock)
    (call : ExceptT ε (Dialogue Read Read.Answer) Bool) : Prop :=
  ∃ before amid after,
    store.consult call.run = .ok before ∧
    (call.run.run (store.amid others) clock).result = .ok amid ∧
    (store.after others).consult call.run = .ok after ∧
    (before = true → amid = true) ∧ (amid = true → after = true)

/-- A store between the one before and the one after answers for the one in motion. -/
theorem accrues_of_blend {store blended : Store} {others : List Write} {clock : Clock}
    {check : Inquiry Bool}
    (answers : ∀ store : Store, ∃ allowed, store.consult check.run = .ok allowed)
    (result : (check.run.run (store.amid others) clock).result = blended.consult check.run)
    (keeps : store.consult check.run = .ok true → blended.consult check.run = .ok true)
    (lasts : blended.consult check.run = .ok true →
      (store.after others).consult check.run = .ok true) :
    Accrues store others clock check := by
  obtain ⟨before, hbefore⟩ := answers store
  obtain ⟨amid, hamid⟩ := answers blended
  obtain ⟨after, hafter⟩ := answers (store.after others)
  refine ⟨before, amid, after, hbefore, result.trans hamid, hafter, ?_, ?_⟩
  · rintro rfl
    exact Except.ok.inj (hamid.symm.trans (keeps hbefore))
  · rintro rfl
    exact Except.ok.inj (hafter.symm.trans (lasts hamid))

variable {store : Store} {others : List Write} {request : Request} (h : store.Integral)
  (bound : (store.after others).issued < numberLimit)
  (additive : ∀ write ∈ others, write.isAdditive = true)
  (settled : store.Settled request.session)

include h bound additive settled

theorem general_accrues (policy : Policy) (clock : Clock) :
    Accrues store others clock (General.check policy request) := by
  obtain ⟨moments, hmono, _, _, hresult⟩ := (General.orderly_check policy request).amid_views
    (General.coherent_views h bound) General.of_views clock
  obtain ⟨hbefore, hafter⟩ := widens_of_views h bound additive settled
    (General.coherent_views h bound hmono) (moments 0) (moments 1) (moments 2) (moments 3)
    rfl rfl rfl rfl
  refine accrues_of_blend ?_ hresult ?_ ?_
  · intro store
    exact general_answers policy store request
  · apply general_allows_of_widens policy hbefore
    intro actor hcaller
    apply hbefore.tokenMatched hcaller
    intro grant _ hstored
    exact Views.storesGrant_blend.mpr (hstored.extend (extends_to_during h bound (moments 4)))
  · apply general_allows_of_widens policy hafter
    intro actor hcaller
    apply hafter.tokenMatched hcaller
    intro grant _ hstored
    exact (Views.storesGrant_blend.mp hstored).extend (extends_during_after h bound (moments 4))

theorem direct_accrues (policy : Policy) (clock : Clock) :
    Accrues store others clock (Direct.check policy request) := by
  obtain ⟨moments, hmono, _, _, hresult⟩ := (Direct.orderly_check policy request).amid_views
    (Direct.coherent_views h bound) Direct.of_views clock
  obtain ⟨hbefore, hafter⟩ := widens_of_views h bound additive settled
    (Direct.coherent_views h bound hmono) (moments 0) (moments 2) (moments 3) (moments 1)
    rfl rfl rfl rfl
  refine accrues_of_blend ?_ hresult ?_ ?_
  · intro store
    exact direct_answers policy store request
  · exact direct_allows_of_widens policy hbefore
  · exact direct_allows_of_widens policy hafter

end Evaluator

namespace Service

open Evaluator Store

variable {store : Store} {others : List Write} {service : Service} {input : CheckInput}

/-- The service answers what its evaluators answer; the verifying one asks the
direct evaluator after the general one, on the same clock. -/
theorem checkPermission_accrues {clock : Clock}
    (general : ∀ clock, Accrues store others clock
      (General.check service.policy (service.requestOf input)))
    (direct : ∀ clock, Accrues store others clock
      (Direct.check service.policy (service.requestOf input))) :
    Accrues store others clock (service.checkPermission input) := by
  obtain ⟨before, amid, after, hbefore, hamid, hafter, hkeeps, hlasts⟩ := general clock
  cases hevaluator : service.evaluator with
  | general =>
      simp only [checkPermission, hevaluator]
      exact ⟨before, amid, after, consult_check hbefore, result_check hamid,
        consult_check hafter, hkeeps, hlasts⟩
  | direct =>
      obtain ⟨before, amid, after, hbefore, hamid, hafter, hkeeps, hlasts⟩ := direct clock
      simp only [checkPermission, hevaluator]
      exact ⟨before, amid, after, consult_checkDirect hbefore, result_checkDirect hamid,
        consult_checkDirect hafter, hkeeps, hlasts⟩
  | verify =>
      obtain ⟨before', amid', after', hbefore', hamid', hafter', hkeeps', hlasts'⟩ := direct
        ((General.check service.policy (service.requestOf input)).run.run
          (store.amid others) clock).state
      simp only [checkPermission, hevaluator]
      refine ⟨before && before', amid && amid', after && after',
        consult_checkVerified hbefore hbefore', result_checkVerified hamid hamid',
        consult_checkVerified hafter hafter', ?_, ?_⟩
      · rw [Bool.and_eq_true, Bool.and_eq_true]
        exact And.imp hkeeps hkeeps'
      · rw [Bool.and_eq_true, Bool.and_eq_true]
        exact And.imp hlasts hlasts'

/-- Writes that only add never take access away, neither at rest nor while a
check is reading: what was allowed before is allowed amid them, and what is
allowed amid them is allowed after. -/
theorem additive_writes_take_no_access (writes others : List Write) (service : Service)
    (input : CheckInput) (waits : List Nat)
    (additive : ∀ write ∈ others, write.isAdditive = true)
    (settled : (empty.after writes).Settled (service.requestOf input).session)
    (bound : (empty.after (writes ++ others)).issued < numberLimit) :
    Accrues (empty.after writes) others ⟨0, waits⟩ (service.checkPermission input) := by
  rw [after_append] at bound
  have hbefore := Nat.lt_of_le_of_lt (issued_le_after (keyed_after writes) others) bound
  have hintegral := integral_after_writes integral_empty writes hbefore
  apply checkPermission_accrues
  · intro clock
    exact general_accrues hintegral bound additive settled service.policy clock
  · intro clock
    exact direct_accrues hintegral bound additive settled service.policy clock

/-- A new actor, and a grant for the organization of the first. -/
def grantedMeanwhile : List Write := [.createActor, .assignToOrganization ⟨5⟩ ⟨3⟩]

/-- The member of the organization asks to edit. -/
def memberInput : CheckInput := ⟨some ⟨2⟩, none, "edit", "perspective", .single 42⟩

def verifying : Service := ⟨.standard, false, .verify⟩

/-- The organization of the caller gets the grant between two reads. -/
theorem assignment_amid_check_allows_member :
    (∀ write ∈ grantedMeanwhile, write.isAdditive = true) ∧
      (empty.after unassigned).Settled (verifying.requestOf memberInput).session ∧
      (empty.after (unassigned ++ grantedMeanwhile)).issued < numberLimit ∧
      ((empty.after unassigned).consult (verifying.checkPermission memberInput).run = .ok false ∧
        ((verifying.checkPermission memberInput).run.run
          ((empty.after unassigned).amid grantedMeanwhile) ⟨0, [0, 0, 2]⟩).result = .ok true) ∧
      Accrues (empty.after unassigned) grantedMeanwhile ⟨0, [0, 0, 2]⟩
        (verifying.checkPermission memberInput) := by
  have hadditive : ∀ write ∈ grantedMeanwhile, write.isAdditive = true := by decide
  have hsettled : (empty.after unassigned).Settled (verifying.requestOf memberInput).session :=
    Or.inr ⟨⟨⟨1⟩, true, false⟩, rfl⟩
  have hbound : (empty.after (unassigned ++ grantedMeanwhile)).issued < numberLimit := by decide
  exact ⟨hadditive, hsettled, hbound, ⟨rfl, rfl⟩,
    additive_writes_take_no_access unassigned grantedMeanwhile verifying memberInput [0, 0, 2]
      hadditive hsettled hbound⟩

end Service

end AccessGrants
