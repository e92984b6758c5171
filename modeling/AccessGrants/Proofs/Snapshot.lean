import AccessGrants.Proofs.Evaluator.Motion
import AccessGrants.Proofs.Influence

/-!
Checks and snapshots. No evaluator takes a snapshot of the store: each read
sees the store of its own moment, and writes that fall between two reads can
bring about a verdict that no state of the store has. A decision rests on three
things, the caller of the session, whether the target is publicly readable, and
the rights of the caller. While no two of them change, the verdict is that of
one of the states meanwhile; the direct evaluator needs no more than that the
caller stays the same, since it looks at the target before it looks at rights.
-/

namespace AccessGrants

namespace Store

/-- Every one of the writes is accepted. -/
def AllAccepted (store : Store) : List Write → Prop
  | [] => True
  | write :: rest => (store.write write).1.isOk = true ∧ (store.write write).2.AllAccepted rest

/-- The verdict of a call amid the writes of others is that of some state which
the store had between the first read and the last. -/
def ReadsSnapshot {ε : Type} (store : Store) (others : List Write) (waits : List Nat)
    (call : ExceptT ε (Dialogue Read Read.Answer) Bool) : Prop :=
  let ended := call.run.run (store.amid others) ⟨0, 0 :: waits⟩
  ∃ moment ≤ ended.state.moment, ended.result = (store.during others moment).consult call.run

end Store

namespace Evaluator

open Store

section Torn

/-- Writes that happened, writes that happen while a check reads, and when. -/
structure Scene where
  writes : List Write
  others : List Write
  request : Request
  waits : List Nat

/-- The check of the request reads a snapshot, or the writes are not all accepted. -/
def Scene.Snapshot (scene : Scene) (check : Policy → Request → Inquiry Bool) : Prop :=
  (empty.after scene.writes).AllAccepted scene.others →
    ReadsSnapshot (empty.after scene.writes) scene.others scene.waits
      (check .standard scene.request)

/-- An actor is deactivated, and only then gets a grant to edit. -/
def deactivatedThenAssigned : Scene where
  writes := [.createActor, .openSession ⟨1⟩, .createTemplate "perspective" "edit" [],
    .createGrant ⟨3⟩ (.composite ⟨5, 42⟩)]
  others := [.setActorActive ⟨1⟩ false, .assignToActor ⟨4⟩ ⟨1⟩]
  request := ⟨some ⟨2⟩, "edit", "perspective", .single 42⟩
  waits := [2]

/-- An actor becomes a superuser, and only then the instance is hidden. -/
def promotedThenHidden : Scene where
  writes := [.createActor, .openSession ⟨1⟩, .setVisibility ⟨5, 42⟩ .published]
  others := [.setActorSuperuser ⟨1⟩ true, .setVisibility ⟨5, 42⟩ .hidden]
  request := ⟨some ⟨2⟩, "view", "approve_entities", .composite ⟨5, 42⟩⟩
  waits := [2]

/-- An actor gets a grant to view, and only then the instance is hidden. -/
def assignedThenHidden : Scene where
  writes := [.createActor, .openSession ⟨1⟩, .createTemplate "approve_entities" "view" [],
    .createGrant ⟨3⟩ (.composite ⟨5, 42⟩), .setVisibility ⟨5, 42⟩ .published]
  others := [.assignToActor ⟨4⟩ ⟨1⟩, .setVisibility ⟨5, 42⟩ .hidden]
  request := ⟨some ⟨2⟩, "view", "approve_entities", .composite ⟨5, 42⟩⟩
  waits := [0, 0, 2]

/-- The verdict is one thing, and at each of three states the other. -/
theorem Scene.not_snapshot {scene : Scene} {check : Policy → Request → Inquiry Bool}
    {torn : Bool} (accepted : (empty.after scene.writes).AllAccepted scene.others)
    (last : ((check .standard scene.request).run.run
      ((empty.after scene.writes).amid scene.others) ⟨0, 0 :: scene.waits⟩).state.moment = 2)
    (result : ((check .standard scene.request).run.run
      ((empty.after scene.writes).amid scene.others) ⟨0, 0 :: scene.waits⟩).result = .ok torn)
    (first : (empty.after scene.writes).consult (check .standard scene.request).run = .ok !torn)
    (between : ((empty.after scene.writes).during scene.others 1).consult
      (check .standard scene.request).run = .ok !torn)
    (final : ((empty.after scene.writes).during scene.others 2).consult
      (check .standard scene.request).run = .ok !torn) : ¬ scene.Snapshot check := by
  intro h
  obtain ⟨moment, hmoment, hresult⟩ := h accepted
  rw [last] at hmoment
  have hstate : ((empty.after scene.writes).during scene.others moment).consult
      (check .standard scene.request).run = .ok !torn := by
    have hcases : moment = 0 ∨ moment = 1 ∨ moment = 2 := by omega
    rcases hcases with rfl | rfl | rfl
    · exact first
    · exact between
    · exact final
  rw [result, hstate] at hresult
  simp at hresult

/-- Two changes between the reads of one check are enough for a verdict that no
state of the store has, in each pair that the rule below leaves out. -/
theorem checks_take_no_snapshot :
    (¬ deactivatedThenAssigned.Snapshot Direct.check ∧
        ¬ deactivatedThenAssigned.Snapshot General.check) ∧
      (¬ promotedThenHidden.Snapshot Direct.check ∧
        ¬ promotedThenHidden.Snapshot General.check) ∧
      ¬ assignedThenHidden.Snapshot General.check := by
  have hdeactivated : (empty.after deactivatedThenAssigned.writes).AllAccepted
      deactivatedThenAssigned.others := ⟨rfl, rfl, trivial⟩
  have hpromoted : (empty.after promotedThenHidden.writes).AllAccepted
      promotedThenHidden.others := ⟨rfl, rfl, trivial⟩
  have hassigned : (empty.after assignedThenHidden.writes).AllAccepted
      assignedThenHidden.others := ⟨rfl, rfl, trivial⟩
  refine ⟨⟨?_, ?_⟩, ⟨?_, ?_⟩, ?_⟩
  · exact Scene.not_snapshot hdeactivated rfl rfl rfl rfl rfl
  · exact Scene.not_snapshot hdeactivated rfl rfl rfl rfl rfl
  · exact Scene.not_snapshot hpromoted rfl rfl rfl rfl rfl
  · exact Scene.not_snapshot hpromoted rfl rfl rfl rfl rfl
  · exact Scene.not_snapshot hassigned rfl rfl rfl rfl rfl

end Torn

end Evaluator

namespace Store

section Same

variable (request : Request) (store other : Store)

/-- The session stands for the same actor, with the same flags, or for nobody. -/
def SameCaller : Prop :=
  other.callerOf request.session = store.callerOf request.session

/-- The target is publicly readable in both or in neither. -/
def SameState : Prop :=
  other.PubliclyReadable request.action request.target ↔
    store.PubliclyReadable request.action request.target

/-- The caller holds the same grants on the subject type, and the same fitting
grants are stored. -/
structure SameRights : Prop where
  itself : ∀ actor, store.callerOf request.session = some actor → ∀ grant,
    grant.subject = request.subject →
    (other.HoldsItself actor.id grant ↔ store.HoldsItself actor.id grant)
  asMember : ∀ actor, store.callerOf request.session = some actor → ∀ grant,
    grant.subject = request.subject →
    (other.HoldsAsMember actor.id grant ↔ store.HoldsAsMember actor.id grant)
  stored : ∀ grant, request.Fits grant → (other.StoresGrant grant ↔ store.StoresGrant grant)

/-- The stores are the same to the request in all that a decision rests on. -/
structure Same : Prop where
  caller : SameCaller request store other
  state : SameState request store other
  rights : SameRights request store other

end Same

variable {request : Request} {store other third : Store}

/-- Two stores with the rights of one have the same rights. -/
theorem SameRights.across (h : SameRights request store other)
    (h' : SameRights request store third) (caller : SameCaller request store other) :
    SameRights request other third where
  itself := by
    intro actor hcaller grant hsubject
    have hbefore := caller.symm.trans hcaller
    rw [h'.itself actor hbefore grant hsubject, h.itself actor hbefore grant hsubject]
  asMember := by
    intro actor hcaller grant hsubject
    have hbefore := caller.symm.trans hcaller
    rw [h'.asMember actor hbefore grant hsubject, h.asMember actor hbefore grant hsubject]
  stored := by
    intro grant hfits
    rw [h'.stored grant hfits, h.stored grant hfits]

theorem SameRights.refl : SameRights request store store where
  itself := fun _ _ _ _ => Iff.rfl
  asMember := fun _ _ _ _ => Iff.rfl
  stored := fun _ _ => Iff.rfl

theorem Same.symm (h : Same request store other) : Same request other store where
  caller := h.caller.symm
  state := h.state.symm
  rights := h.rights.across .refl h.caller

theorem Same.widens (h : Same request store other) : Widens request store other where
  caller := h.caller
  readable := h.state.mpr
  itself := fun actor hcaller grant hsubject => (h.rights.itself actor hcaller grant hsubject).mpr
  asMember := fun actor hcaller grant hsubject =>
    (h.rights.asMember actor hcaller grant hsubject).mpr

/-- What is put together of views that are the same each in its respect is the same. -/
theorem Views.Coherent.same_blend {views : Views} (h : views.Coherent)
    (caller : SameCaller request store views.caller)
    (state : SameState request store views.visible)
    (own : SameRights request store views.own)
    (inherited : SameRights request store views.inherited)
    (stored : SameRights request store views.stored) : Same request store views.blend where
  caller := caller
  state := state
  rights :=
    { itself := by
        intro actor hcaller grant hsubject
        exact h.holdsItself_blend.trans (own.itself actor hcaller grant hsubject)
      asMember := by
        intro actor hcaller grant hsubject
        exact h.holdsAsMember_blend.trans (inherited.asMember actor hcaller grant hsubject)
      stored := stored.stored }

theorem sameCaller_first {others : List Write} {moment : Nat} (first : moment = 0) :
    SameCaller request store (store.during others moment) := by
  rw [first]
  rfl

end Store

namespace Evaluator

open Store

variable {request : Request} {store other : Store} (policy : Policy)

theorem general_allows_of_same (same : Same request store other) :
    store.consult (General.check policy request).run = .ok true →
      other.consult (General.check policy request).run = .ok true := by
  apply general_allows_of_widens policy same.widens
  intro actor hcaller
  exact same.widens.tokenMatched hcaller fun grant hfits => (same.rights.stored grant hfits).mpr

theorem general_eq_of_same (same : Same request store other) :
    other.consult (General.check policy request).run =
      store.consult (General.check policy request).run := by
  apply consult_eq_of_allows_iff (general_answers _ _ _) (general_answers _ _ _)
  exact ⟨general_allows_of_same policy same, general_allows_of_same policy same.symm⟩

theorem direct_eq_of_same (same : Same request store other) :
    other.consult (Direct.check policy request).run =
      store.consult (Direct.check policy request).run := by
  apply consult_eq_of_allows_iff (direct_answers _ _ _) (direct_answers _ _ _)
  constructor
  · exact direct_allows_of_widens policy same.widens
  · exact direct_allows_of_widens policy same.symm.widens

/-- A verdict that is allowed whenever an earlier one is, and only if the
earlier or a later one is, is one of the two. -/
theorem consult_eq_of_between {check : Inquiry Bool} {earlier between later : Store}
    (answers : ∀ store : Store, ∃ allowed, store.consult check.run = .ok allowed)
    (keeps : earlier.consult check.run = .ok true → between.consult check.run = .ok true)
    (lasts : between.consult check.run = .ok true →
      earlier.consult check.run = .ok true ∨ later.consult check.run = .ok true) :
    between.consult check.run = earlier.consult check.run ∨
      between.consult check.run = later.consult check.run := by
  obtain ⟨allowed, hallowed⟩ := answers between
  rw [hallowed] at keeps lasts ⊢
  cases allowed with
  | true => exact (lasts rfl).imp Eq.symm Eq.symm
  | false =>
      left
      obtain ⟨before, hbefore⟩ := answers earlier
      rw [hbefore] at keeps ⊢
      cases before with
      | true => exact keeps rfl
      | false => rfl

section Motion

variable {others : List Write} (h : store.Integral)
  (bound : (store.after others).issued < numberLimit)

include h bound

/-- With the caller the same, the direct evaluator's verdict is that at the
read of the target or that at the last read of grants. -/
theorem direct_of_sameCaller {moments : Nat → Nat} (hmono : Monotone moments)
    (caller : ∀ number, SameCaller request store (store.during others (moments number))) :
    (Direct.views store others moments).blend.consult (Direct.check policy request).run =
        (store.during others (moments 1)).consult (Direct.check policy request).run ∨
      (Direct.views store others moments).blend.consult (Direct.check policy request).run =
        (store.during others (moments 3)).consult (Direct.check policy request).run := by
  have hcoherent := Direct.coherent_views h bound hmono
  apply consult_eq_of_between fun store => direct_answers policy store request
  · apply direct_allows_of_widens policy
    apply hcoherent.widens_blend
    · exact (caller 0).trans (caller 1).symm
    · exact id
    · exact extends_during h bound (hmono (by omega))
    · exact extends_during h bound (hmono (by omega))
  · intro hallowed
    have hblend : (Direct.views store others moments).blend.callerOf request.session =
        store.callerOf request.session := caller 0
    cases hcaller : store.callerOf request.session with
    | none =>
        left
        rw [(Direct.check_decides_without_caller _ policy (hblend.trans hcaller)).allows_iff]
          at hallowed
        rw [(Direct.check_decides_without_caller _ policy
          ((caller 1).trans hcaller)).allows_iff]
        exact hallowed
    | some actor =>
        rw [(Direct.check_decides _ policy (hblend.trans hcaller)).allows_iff] at hallowed
        rw [(Direct.check_decides _ policy ((caller 1).trans hcaller)).allows_iff,
          (Direct.check_decides _ policy ((caller 3).trans hcaller)).allows_iff]
        -- A right is held at the last read still; the state of the target was
        -- looked at before.
        rcases hallowed with hsuper | ⟨hlisted, hreadable⟩ | ⟨husable, grant, hfits, hheld⟩
        · exact Or.inl (.superuser hsuper)
        · exact Or.inl (.reader hlisted hreadable)
        · right
          refine .grantee ⟨husable, grant, hfits, ?_⟩
          rcases hheld with hself | ⟨hexisting, hmember⟩
          · left
            exact (hcoherent.holdsItself_blend.mp hself).extend
              (extends_during h bound (hmono (by omega)))
          · exact Or.inr ⟨hexisting, hcoherent.holdsAsMember_blend.mp hmember⟩

/-- With the caller and the state of the target the same, rights have only been
added from the first read to the last. -/
theorem general_of_sameCaller_sameState {moments : Nat → Nat} (hmono : Monotone moments)
    (caller : ∀ number, SameCaller request store (store.during others (moments number)))
    (state : ∀ number, SameState request store (store.during others (moments number))) :
    (General.views store others moments).blend.consult (General.check policy request).run =
        store.consult (General.check policy request).run ∨
      (General.views store others moments).blend.consult (General.check policy request).run =
        (store.during others (moments 4)).consult (General.check policy request).run := by
  have hcoherent := General.coherent_views h bound hmono
  apply consult_eq_of_between fun store => general_answers policy store request
  · have hwidens : Widens request store (General.views store others moments).blend := by
      apply hcoherent.widens_blend
      · exact caller 0
      · exact (state 3).mpr
      · exact extends_to_during h bound _
      · exact extends_to_during h bound _
    apply general_allows_of_widens policy hwidens
    intro actor hcaller
    apply hwidens.tokenMatched hcaller
    intro grant _ hstored
    exact Views.storesGrant_blend.mpr (hstored.extend (extends_to_during h bound _))
  · intro hallowed
    right
    have hwidens : Widens request (General.views store others moments).blend
        (store.during others (moments 4)) := by
      apply hcoherent.blend_widens
      · exact (caller 4).trans (caller 0).symm
      · exact fun hreadable => (state 4).mpr ((state 3).mp hreadable)
      · exact extends_during h bound (hmono (by omega))
      · exact extends_during h bound (hmono (by omega))
    apply general_allows_of_widens policy hwidens _ hallowed
    intro actor hcaller
    exact hwidens.tokenMatched hcaller fun grant _ => Views.storesGrant_blend.mp

/-- With the caller and its rights the same, the verdict is that at the read of
the target. -/
theorem general_of_sameCaller_sameRights {moments : Nat → Nat} (hmono : Monotone moments)
    (caller : ∀ number, SameCaller request store (store.during others (moments number)))
    (rights : ∀ number, SameRights request store (store.during others (moments number))) :
    (General.views store others moments).blend.consult (General.check policy request).run =
      (store.during others (moments 3)).consult (General.check policy request).run := by
  have hcaller := caller 3
  apply general_eq_of_same policy
  apply (General.coherent_views h bound hmono).same_blend
  · exact (caller 0).trans hcaller.symm
  · exact Iff.rfl
  · exact (rights 3).across (rights 1) hcaller
  · exact (rights 3).across (rights 2) hcaller
  · exact (rights 3).across (rights 4) hcaller

end Motion

/-- For as long as the check reads, the store stays the same to the request in
one of the respects that a decision rests on. -/
def Keeps (same : Request → Store → Store → Prop) (store : Store) (others : List Write)
    (waits : List Nat) (request : Request) (check : Inquiry Bool) : Prop :=
  ∀ moment ≤ (check.run.run (store.amid others) ⟨0, 0 :: waits⟩).state.moment,
    same request store (store.during others moment)

theorem Keeps.of_forall {same : Request → Store → Store → Prop} {others : List Write}
    {waits : List Nat} {check : Inquiry Bool}
    (h : ∀ moment, same request store (store.during others moment)) :
    Keeps same store others waits request check :=
  fun moment _ => h moment

/-- While a check reads, at most one of three things changes: then its verdict
is that of one of the states meanwhile. The direct evaluator can do without the
second and the third if the first stays the same. -/
theorem one_change_reads_snapshot (writes others : List Write) (policy : Policy)
    (request : Request) (waits : List Nat)
    (bound : (empty.after (writes ++ others)).issued < numberLimit) :
    let store := empty.after writes
    let general := General.check policy request
    let direct := Direct.check policy request
    ((Keeps SameCaller store others waits request general ∧
            Keeps SameState store others waits request general ∨
          Keeps SameCaller store others waits request general ∧
            Keeps SameRights store others waits request general ∨
          Keeps SameState store others waits request general ∧
            Keeps SameRights store others waits request general) →
        ReadsSnapshot store others waits general) ∧
      ((Keeps SameCaller store others waits request direct ∨
          Keeps SameState store others waits request direct ∧
            Keeps SameRights store others waits request direct) →
        ReadsSnapshot store others waits direct) := by
  intro store general direct
  rw [after_append] at bound
  have hbefore := Nat.lt_of_le_of_lt (issued_le_after (keyed_after writes) others) bound
  have h := integral_after_writes integral_empty writes hbefore
  constructor
  · obtain ⟨moments, hmono, hbounds, hfirst, hresult⟩ :=
      (General.orderly_check policy request).amid_views (General.coherent_views h bound)
        General.of_views ⟨0, 0 :: waits⟩
    have hwithin (number : Nat) := (hbounds number).2
    rintro (⟨caller, state⟩ | ⟨caller, rights⟩ | ⟨state, rights⟩)
    · have hcaller (number : Nat) := caller _ (hwithin number)
      have hstate (number : Nat) := state _ (hwithin number)
      rcases general_of_sameCaller_sameState policy h bound hmono hcaller hstate with heq | heq
      · exact ⟨0, Nat.zero_le _, hresult.trans heq⟩
      · exact ⟨moments 4, hwithin 4, hresult.trans heq⟩
    · have hcaller (number : Nat) := caller _ (hwithin number)
      have hrights (number : Nat) := rights _ (hwithin number)
      exact ⟨moments 3, hwithin 3, hresult.trans
        (general_of_sameCaller_sameRights policy h bound hmono hcaller hrights)⟩
    · -- Then the verdict is that at the read of the caller, which is the first one.
      have hrights (number : Nat) := rights _ (hwithin number)
      have hsame := (General.coherent_views h bound hmono).same_blend
        (sameCaller_first (hfirst rfl)) (state _ (hwithin 3)) (hrights 1) (hrights 2) (hrights 4)
      exact ⟨0, Nat.zero_le _, hresult.trans (general_eq_of_same policy hsame)⟩
  · obtain ⟨moments, hmono, hbounds, hfirst, hresult⟩ :=
      (Direct.orderly_check policy request).amid_views (Direct.coherent_views h bound)
        Direct.of_views ⟨0, 0 :: waits⟩
    have hwithin (number : Nat) := (hbounds number).2
    rintro (caller | ⟨state, rights⟩)
    · have hcaller (number : Nat) := caller _ (hwithin number)
      rcases direct_of_sameCaller policy h bound hmono hcaller with heq | heq
      · exact ⟨moments 1, hwithin 1, hresult.trans heq⟩
      · exact ⟨moments 3, hwithin 3, hresult.trans heq⟩
    · have hrights (number : Nat) := rights _ (hwithin number)
      have hsame := (Direct.coherent_views h bound hmono).same_blend
        (sameCaller_first (hfirst rfl)) (state _ (hwithin 1)) (hrights 2) (hrights 3) (hrights 3)
      exact ⟨0, Nat.zero_le _, hresult.trans (direct_eq_of_same policy hsame)⟩

/-- The organization of an actor gets a grant while its member asks to edit, and
then the instance is hidden. -/
def assignedMeanwhile : Scene where
  writes := unassigned
  others := [.assignToOrganization ⟨5⟩ ⟨3⟩, .setVisibility ⟨5, 42⟩ .hidden]
  request := ⟨some ⟨2⟩, "edit", "perspective", .single 42⟩
  waits := [1, 1]

/-- The caller stays the same, and the state of the instance is of no account. -/
theorem assignment_amid_check_reads_snapshot :
    let scene := assignedMeanwhile
    let store := empty.after scene.writes
    let general := General.check .standard scene.request
    let direct := Direct.check .standard scene.request
    (empty.after (scene.writes ++ scene.others)).issued < numberLimit ∧
      (Keeps SameCaller store scene.others scene.waits scene.request general ∧
        Keeps SameState store scene.others scene.waits scene.request general) ∧
      Keeps SameCaller store scene.others scene.waits scene.request direct ∧
      ReadsSnapshot store scene.others scene.waits general ∧
      ReadsSnapshot store scene.others scene.waits direct := by
  have hcaller : ∀ moment, SameCaller assignedMeanwhile.request
      (empty.after assignedMeanwhile.writes)
      ((empty.after assignedMeanwhile.writes).during assignedMeanwhile.others moment) := by
    rintro (_ | _ | moment)
    · rfl
    · rfl
    · rw [during_of_length_le (by simp [assignedMeanwhile])]
      rfl
  have hstate : ∀ moment, SameState assignedMeanwhile.request
      (empty.after assignedMeanwhile.writes)
      ((empty.after assignedMeanwhile.writes).during assignedMeanwhile.others moment) := by
    intro moment
    simp [SameState, assignedMeanwhile, not_publiclyReadable_single]
  have hbound : (empty.after (assignedMeanwhile.writes ++ assignedMeanwhile.others)).issued <
      numberLimit := by decide
  have hsnapshot := one_change_reads_snapshot assignedMeanwhile.writes assignedMeanwhile.others
    .standard assignedMeanwhile.request assignedMeanwhile.waits hbound
  exact ⟨hbound, ⟨.of_forall hcaller, .of_forall hstate⟩, .of_forall hcaller,
    hsnapshot.1 (Or.inl ⟨.of_forall hcaller, .of_forall hstate⟩),
    hsnapshot.2 (Or.inl (.of_forall hcaller))⟩

end Evaluator

end AccessGrants
