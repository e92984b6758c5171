import AccessGrants.Proofs.Inquiry
import AccessGrants.Proofs.Store.Consultation
import AccessGrants.Proofs.Store.Growth
import Mathlib.Data.List.Basic
import Mathlib.Order.Monotone.Basic

/-!
A store that others write to between two reads. Each read is answered from the
store of its own moment, and the moments go forward. An orderly inquiry cannot
tell such a store from one that is put together of the parts that its reads look
at, each as it was at the moment of its read; so what the evaluators decide over
a store at rest says what they decide over one in motion.
-/

namespace AccessGrants

/-- How many writes of others have happened, and how many more will have
happened before each of the reads to come. -/
structure Clock where
  moment : Nat
  waits : List Nat

namespace Store

/-- The store when so many of the writes have happened. -/
def during (store : Store) (others : List Write) (moment : Nat) : Store :=
  store.after (others.take moment)

/-- A partner that others write to between two questions. -/
def amid (store : Store) (others : List Write) (question : Read) (clock : Clock) :
    question.Answer × Clock :=
  let moment := clock.moment + clock.waits.headD 0
  ((store.during others moment).answer question, ⟨moment, clock.waits.tail⟩)

variable {store : Store} {others : List Write}

section Moments

variable {moment later : Nat}

theorem during_of_length_le (h : others.length ≤ moment) :
    store.during others moment = store.after others := by
  rw [during, List.take_of_length_le h]

/-- The writes between two moments. -/
theorem during_after (before : moment ≤ later) :
    store.during others later =
      (store.during others moment).after ((others.take later).drop moment) := by
  have hsplit := List.take_append_drop moment (others.take later)
  rw [List.take_take, Nat.min_eq_left before] at hsplit
  rw [during, during, ← after_append, hsplit]

variable (h : store.Integral) (bound : (store.after others).issued < numberLimit)

include h in
theorem issued_during_le (others : List Write) (moment : Nat) :
    (store.during others moment).issued ≤ (store.after others).issued := by
  have hsplit : store.after others = (store.during others moment).after (others.drop moment) := by
    rw [during, ← after_append, List.take_append_drop]
  rw [hsplit]
  exact issued_le_after (Changes.keyed (after_changes h.keyed _) h.keyed) _

include h bound

theorem integral_during (moment : Nat) : (store.during others moment).Integral :=
  integral_after_writes h _ (Nat.lt_of_le_of_lt (issued_during_le h others moment) bound)

theorem extends_during (before : moment ≤ later) :
    (store.during others moment).Extends (store.during others later) := by
  have hbound := Nat.lt_of_le_of_lt (issued_during_le h others later) bound
  rw [during_after before] at hbound ⊢
  exact extends_after_writes (integral_during h bound moment) _ hbound

theorem extends_to_during (moment : Nat) : store.Extends (store.during others moment) :=
  extends_during h bound (Nat.zero_le moment)

theorem extends_during_after (moment : Nat) :
    (store.during others moment).Extends (store.after others) := by
  have hextends := extends_during h bound (Nat.le_max_left moment others.length)
  rw [during_of_length_le (Nat.le_max_right moment others.length)] at hextends
  exact hextends

end Moments

end Store

/-- What an orderly inquiry makes of a store in motion: each of its stages has a
moment, the first of them that of its first read, and a store whose reads answer
as they are answered at the moments of their stages is not told apart. -/
theorem Inquiry.Orderly.amid {α : Type} {stage : Read → Nat} {first last : Nat}
    {d : Dialogue Read Read.Answer (Except CheckError α)} (h : Orderly stage last first d)
    (store : Store) (others : List Write) (clock : Clock) :
    ∃ moments : Nat → Nat, Monotone moments ∧
      (∀ number, clock.moment ≤ moments number ∧
        moments number ≤ (d.run (store.amid others) clock).state.moment) ∧
      (clock.waits.headD 0 = 0 → moments first = clock.moment) ∧
      ∀ blended : Store,
        (∀ question, first ≤ stage question → stage question < last →
          blended.read question =
            (store.during others (moments (stage question))).read question) →
        (d.run (store.amid others) clock).result = blended.consult d := by
  induction h generalizing clock with
  | answered value within =>
      exact ⟨fun _ => clock.moment, monotone_const, fun _ => ⟨Nat.le_refl _, Nat.le_refl _⟩,
        fun _ => rfl, fun _ _ => rfl⟩
  | reports silent _ ih => exact ih clock
  | @asks first question next after before refused _ ih =>
      -- All stages up to that of the question have the moment of the question.
      let moment := clock.moment + clock.waits.headD 0
      let value := (store.during others moment).read question
      obtain ⟨moments, hmono, hbounds, -, hblended⟩ := ih value ⟨moment, clock.waits.tail⟩
      refine ⟨fun number => if number ≤ stage question then moment else moments number,
        ?_, ?_, ?_, ?_⟩
      · intro number number' hle
        by_cases hnumber' : number' ≤ stage question
        · have hnumber : number ≤ stage question := hle.trans hnumber'
          simp only [if_pos hnumber, if_pos hnumber', Nat.le_refl]
        · by_cases hnumber : number ≤ stage question
          · simp only [if_pos hnumber, if_neg hnumber']
            exact (hbounds number').1
          · simp only [if_neg hnumber, if_neg hnumber']
            exact hmono hle
      · intro number
        have hmoment : clock.moment ≤ moment := Nat.le_add_right _ _
        obtain ⟨hlower, hupper⟩ := hbounds number
        by_cases hnumber : number ≤ stage question
        · simp only [if_pos hnumber]
          exact ⟨hmoment, Nat.le_trans hlower hupper⟩
        · simp only [if_neg hnumber]
          exact ⟨Nat.le_trans hmoment hlower, hupper⟩
      · intro hwait
        simp only [if_pos after]
        exact Nat.add_eq_left.mpr hwait
      · intro blended hreads
        have hvalue : blended.read question = value := by
          rw [hreads question after before]
          simp only [if_pos (Nat.le_refl (stage question))]
          rfl
        have hask : blended.consult (.ask question next) = blended.consult (next (.ok value)) := by
          rw [← hvalue]
          rfl
        rw [hask]
        apply hblended
        intro question' hlater hlast
        have hnumber : ¬ stage question' ≤ stage question := by omega
        rw [hreads question' (by omega) hlast]
        simp only [if_neg hnumber]

namespace Store

/-- The stores that the reads of a check look at: that of the caller, of its own
grants, of those of its organizations, of the state of the target and of the
stored grants. -/
structure Views where
  caller : Store
  own : Store
  inherited : Store
  visible : Store
  stored : Store

namespace Views

/-- The view that a read looks at. -/
def of (views : Views) : Read → Store
  | .actorForSession _ => views.caller
  | .actorGrants _ _ | .grantExistsForActor _ _ => views.own
  | .organizationGrants _ _ | .grantExistsForOrganizations _ _ => views.inherited
  | .visibility _ => views.visible
  | .subjectGrants _ _ => views.stored

/-- The store that is put together of the parts that the reads look at. -/
def blend (views : Views) : Store where
  issued := views.stored.issued
  actors := views.caller.actors
  sessions := views.caller.sessions
  organizations := views.inherited.organizations
  members := views.inherited.members
  templates := views.stored.templates
  grants := views.stored.grants
  actorGrants := views.own.actorGrants
  organizationGrants := views.inherited.organizationGrants
  visibility := views.visible.visibility

/-- The links lead to grants that were stored when they were read, and are
stored still where the rows are taken from. -/
structure Coherent (views : Views) : Prop where
  own : views.own.Linked
  inherited : views.inherited.Linked
  ownGrants : views.own.grants.Within views.stored.grants
  inheritedGrants : views.inherited.grants.Within views.stored.grants

variable {views : Views} {actor : ActorId} {grant : Grant}

/-- What links lead to is found where nothing that they lead to has been lost. -/
theorem filterMap_get?_within {α : Type} {source target : Entity}
    {earlier later : Table (RowId target) α} (within : earlier.Within later)
    {links : List (Link source target)}
    (stored : ∀ link ∈ links, link.target ∈ earlier) :
    (links.filterMap fun link => later.get? link.target) =
      links.filterMap fun link => earlier.get? link.target := by
  apply List.filterMap_congr
  intro link hmem
  obtain ⟨row, hrow⟩ := stored link hmem
  exact (within _ row hrow).trans hrow.symm

theorem Coherent.heldByActor_blend (h : views.Coherent) :
    views.blend.heldByActor actor = views.own.heldByActor actor :=
  filterMap_get?_within h.ownGrants fun link hmem =>
    (h.own.actorGrants link (List.mem_of_mem_filter hmem)).2

theorem Coherent.heldByOrganizations_blend (h : views.Coherent) :
    views.blend.heldByOrganizations actor = views.inherited.heldByOrganizations actor :=
  filterMap_get?_within h.inheritedGrants fun link hmem =>
    (h.inherited.organizationGrants link (List.mem_of_mem_filter hmem)).2

/-- Each read finds in the blend what it finds in its view. -/
theorem Coherent.read_blend (h : views.Coherent) (question : Read) :
    views.blend.read question = (views.of question).read question := by
  cases question with
  | actorForSession | visibility | subjectGrants => rfl
  | actorGrants actor subject => simp only [read, actorGrantsOf, of, h.heldByActor_blend]
  | organizationGrants actor subject =>
      simp only [read, organizationGrantsOf, of, h.heldByOrganizations_blend]
  | grantExistsForActor query actor =>
      simp only [read, grantExistsForActor, of, h.heldByActor_blend]
  | grantExistsForOrganizations query actor =>
      simp only [read, grantExistsForOrganizations, of, h.heldByOrganizations_blend]

theorem Coherent.holdsItself_blend (h : views.Coherent) :
    views.blend.HoldsItself actor grant ↔ views.own.HoldsItself actor grant := by
  rw [← mem_heldByActor, h.heldByActor_blend, mem_heldByActor]

theorem Coherent.holdsAsMember_blend (h : views.Coherent) :
    views.blend.HoldsAsMember actor grant ↔ views.inherited.HoldsAsMember actor grant := by
  rw [← mem_heldByOrganizations, h.heldByOrganizations_blend, mem_heldByOrganizations]

end Views

end Store

end AccessGrants
