import AccessGrants.Proofs.Database.Creation
import AccessGrants.Proofs.Database.Transaction

/-!
Provisioning over a database with one client, step by step. The listing and the
searches are answered from the tables and from what was written since; a grant
that was not found is inserted, unless there is one for the twin of its scope;
and a failure leaves the tables as they were.
-/

namespace AccessGrants.Database

open Sql

namespace Provisioning

variable {order : Provisioning} {tables written : Tables} {templates : List Template}
  {template : Template} {grant : Grant} {answer : Answer} {after : Server Unit}

section Steps

theorem handles_list (lists : Lists order.kind (tables.append written) templates)
    (h : Handles Schema.definitions (.lone tables (.active written)) (order.command .list) answer
      after) :
    order.read .list answer = .ok templates ∧ after = .lone tables (.active written) := by
  rw [command_list] at h
  obtain ⟨⟨rows, affected, rfl, yields⟩, rfl⟩ := handles_select.mp h
  refine ⟨read_eq_ok_iff.mpr ⟨_, rfl, ?_⟩, rfl⟩
  rw [lists.read rows yields]
  exact mapM_templateOfRow templates

/-- The search finds the grant of the template for the instance if there is one. -/
theorem handles_find
    (numbered : ∀ record ∈ tables.append written "permission_grants",
      ∃ grant : GrantId, record "id" = .int grant.value)
    (h : Handles Schema.definitions (.lone tables (.active written))
      (order.command (.find template)) answer after) :
    after = .lone tables (.active written) ∧
      (order.read (.find template) answer = .ok none ∧
          ¬ Kept (tables.append written) template.id order.scope ∨
        Kept (tables.append written) template.id order.scope ∧
          ∃ grant, order.read (.find template) answer = .ok (some grant)) := by
  rw [command_find] at h
  obtain ⟨⟨rows, affected, rfl, yields⟩, rfl⟩ := handles_select.mp h
  refine ⟨rfl, ?_⟩
  rcases search_cases yields numbered with ⟨rfl, missing⟩ | ⟨grant, rest, rfl, found⟩
  · refine Or.inl ⟨rfl, ?_⟩
    rintro ⟨record, hrecord, hkeeps⟩
    exact missing record hrecord (fills_iff_keeps.mpr hkeeps)
  · obtain ⟨record, hrecord, hfills, _⟩ := found
    exact Or.inr ⟨⟨record, hrecord, fills_iff_keeps.mp hfills⟩, _, rfl⟩

/-- The grant is inserted, or its place in the index is taken. -/
theorem handles_store (stocked : Stocks (tables.append written) template.id)
    (h : Handles Schema.definitions (.lone tables (.active written))
      (order.command (.store template)) answer after) :
    (∃ record grant, Keeps template.id order.scope record ∧
        (∃ number : GrantId, record "id" = .int number.value) ∧
        (∀ other ∈ tables.append written "permission_grants",
          slotOf other ≠ keyOf template.id order.scope) ∧
        (∃ reply, answer = .ok reply) ∧ order.read (.store template) answer = .ok grant ∧
          after = .lone tables (.active (written.add "permission_grants" record))) ∨
      (∃ other ∈ tables.append written "permission_grants",
          slotOf other = keyOf template.id order.scope) ∧
        (∃ text, answer = .error (.rejected DatabaseError.uniqueViolation text)) ∧
          order.read (.store template) answer =
              .error (.duplicate ("grant of " ++ template.id.label)) ∧
            after = .lone tables .failed := by
  rw [command_insertion] at h
  rcases handles_insertion stocked h with
    ⟨record, grant, hkeeps, hid, hfree, rfl, rfl⟩ | ⟨htaken, ⟨text, rfl⟩, rfl⟩
  · exact Or.inl ⟨record, _, hkeeps, ⟨⟨grant⟩, hid⟩, hfree, ⟨_, rfl⟩, rfl, rfl⟩
  · exact Or.inr ⟨htaken, ⟨text, rfl⟩, rfl, rfl⟩

/-- A link is written, or it was there, or it is refused. -/
theorem handles_link
    (h : Handles Schema.definitions (.lone tables (.active written))
      (order.command (.link grant)) answer after) :
    (order.read (.link grant) answer = .ok () ∧ ∃ later,
        later "permission_grants" = written "permission_grants" ∧
          after = .lone tables (.active later)) ∨
      ∃ error, order.read (.link grant) answer = .error error ∧ after = .lone tables .failed := by
  rw [command_link] at h
  obtain ⟨record, _, settles⟩ := handles_insert.mp h
  cases settles with
  | inserted =>
      have hother : (written.add "actor_grants" record) "permission_grants" =
          written "permission_grants" := Function.update_of_ne (by decide) ..
      exact Or.inl ⟨rfl, _, hother, Server.become_lone _⟩
  | ignored => exact Or.inl ⟨rfl, written, rfl, rfl⟩
  | duplicate => exact Or.inr ⟨_, rfl, Server.become_lone _⟩
  | dangling => exact Or.inr ⟨_, rfl, Server.become_lone _⟩
  | malformed => exact Or.inr ⟨_, rfl, Server.become_lone _⟩

/-- Nobody is linked to a grant who is not there. -/
theorem handles_link_unowned
    (unowned : ∀ row ∈ tables.append written "actors", row "id" ≠ .int order.owner.value)
    (unlinked : ∀ row ∈ tables.append written "actor_grants",
      row "actor_id" ≠ .int order.owner.value)
    (h : Handles Schema.definitions (.lone tables (.active written))
      (order.command (.link grant)) answer after) :
    order.read (.link grant) answer =
        .error (.notFound (grant.id.label ++ " or " ++ order.owner.label)) ∧
      after = .lone tables .failed := by
  rw [command_link] at h
  obtain ⟨record, makes, settles⟩ := handles_insert.mp h
  obtain ⟨hown, hlinked⟩ := makes_link makes
  have hcollide {other : Record} (hother : other ∈ tables.append written "actor_grants") :
      ¬ Collide Schema.definitions "actor_grants" record other := by
    intro collide
    obtain ⟨⟨hsame, _⟩, _⟩ := collide_links_iff.mp collide
    exact unlinked other hother (hsame.symm.trans hown)
  have hrefers : ¬ Refers Schema.definitions "actor_grants" (tables.append written) record := by
    intro refers
    rw [Refers, columnsOf_links] at refers
    obtain ⟨row, hrow, hid⟩ := refers _ (.head _) "actors" "id" (.tail _ (.head _))
      (by rw [hown]; exact Value.noConfusion)
    exact unowned row hrow (hid.trans hown)
  cases settles with
  | inserted _ _ refers => exact absurd refers hrefers
  | ignored _ _ there collide => exact absurd collide (hcollide there)
  | duplicate refuses => cases refuses
  | dangling _ _ _ text => exact ⟨rfl, Server.become_lone _⟩
  | malformed refused => exact absurd (admits_link hown hlinked) refused

theorem exists_handles_link :
    ∃ answer after, Handles Schema.definitions (.lone tables (.active written))
      (order.command (.link grant)) answer after := by
  obtain ⟨record, makes⟩ := exists_makes_link (.lone tables (.active written))
    order.owner.value grant.id.value
  exact exists_handles_insert (Or.inr rfl) makes

end Steps

section Stages

variable {server : Server Unit} {step : Step} {done : List Grant} {left : List Template}
  {P : Transcript Command.Answer (Except StorageError (List Grant)) (Server Unit) → Prop}

/-- A step leads on to the stage that its answer tells. -/
theorem ensures_asking
    (answered : ∃ answer after,
      Handles Schema.definitions server (order.command step) answer after)
    (leads : ∀ answer after, Handles Schema.definitions server (order.command step) answer after →
      Ensures Schema.definitions (order.talk (order.advance step done left answer)) after
        fun later => P { later with asked := ⟨order.command step, answer⟩ :: later.asked }) :
    Ensures Schema.definitions (order.talk (.asking step done left)) server P := by
  rw [talk]
  exact ⟨answered, leads⟩

/-- A transaction that failed is undone. -/
theorem ensures_undoing (error : StorageError) :
    Ensures Schema.definitions (order.talk (.undoing error)) (.lone tables .failed) fun left =>
      left.result = .error error ∧ left.audit = [] ∧ left.left = .lone tables .idle ∧
        ∃ answer, left.asked = [⟨⟨.rollBack, []⟩, answer⟩] := by
  have hbegun : Standing.failed ≠ .idle := Standing.noConfusion
  rw [talk]
  refine ⟨⟨_, _, (handles_rollBack hbegun).mpr ⟨⟨⟨[], 0⟩, rfl⟩, rfl⟩⟩, fun answer after h => ?_⟩
  obtain ⟨_, rfl⟩ := (handles_rollBack hbegun).mp h
  exact ⟨rfl, rfl, rfl, answer, rfl⟩

/-- A transaction that came to its end is committed. -/
theorem ensures_committing (done : List Grant) (left : List Template) :
    Ensures Schema.definitions (order.talk (.asking .commit done left))
      (.lone tables (.active written)) fun later =>
        later.result = .ok done ∧ later.audit = [] ∧
          later.left = .lone (tables.append written) .idle ∧
            ∃ answer, later.asked = [⟨order.command .commit, answer⟩] := by
  refine ensures_asking ⟨_, _, handles_commit.mpr ⟨⟨⟨[], 0⟩, rfl⟩, rfl⟩⟩ fun answer after h => ?_
  obtain ⟨⟨reply, rfl⟩, rfl⟩ := handles_commit.mp h
  change Ensures _ (order.talk (.ended (.ok done))) _ _
  rw [talk]
  exact ⟨rfl, rfl, rfl, _, rfl⟩

/-- A transaction begins with the listing of the templates. -/
theorem ensures_opening (lists : Lists order.kind tables templates)
    (rest : ∀ answer answer', Ensures Schema.definitions (order.talk (turn [] templates))
      (.lone tables (.active .empty)) fun later =>
        P { later with
          asked := ⟨order.command .begin, answer⟩ :: ⟨order.command .list, answer'⟩ ::
            later.asked }) :
    Ensures Schema.definitions (order.talk (.asking .begin [] [])) (.lone tables .idle) P := by
  have hlisted : Lists order.kind (tables.append .empty) templates := by
    rwa [Tables.append_empty]
  refine ensures_asking ⟨_, _, handles_begin.mpr ⟨⟨⟨[], 0⟩, rfl⟩, rfl⟩⟩ fun answer after h => ?_
  obtain ⟨⟨reply, rfl⟩, rfl⟩ := handles_begin.mp h
  change Ensures _ (order.talk (.asking .list [] [])) _ _
  refine ensures_asking exists_handles_select fun answer' after h => ?_
  obtain ⟨hread, rfl⟩ := handles_list hlisted h
  rw [advance, hread]
  exact rest _ answer'

end Stages

end Provisioning

end AccessGrants.Database
