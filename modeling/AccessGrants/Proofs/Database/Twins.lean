import AccessGrants.Proofs.Database.Alone
import AccessGrants.Proofs.Store.Growth

/-!
What the unique index makes of scopes. It tells all scopes apart but the twins,
and so on a database with one client a grant is refused as a duplicate if the
grant or its twin is there; the insertion of a provisioning, which comes after a
search in vain, is refused for a twin and for nothing else.
-/

namespace AccessGrants.Database

open Sql

/-- If the exchange is an insertion of a grant for the scope, it is refused as a
duplicate just if the tables have the twin of the grant. -/
def Accounted (tables : Tables) (scope : Scope) (exchange : Exchange Command.Answer) : Prop :=
  ∀ template, exchange.question = insertion template scope →
    ((∃ text, exchange.answer = .error (.rejected DatabaseError.uniqueViolation text)) ↔
      ∃ twin, scope.Twins twin ∧ Kept tables template twin)

namespace Provisioning

/-- What a provisioning has written of grants, with templates left for which it
may write more. -/
structure Wrote (order : Provisioning) (tables written : Tables) (left : List Template) :
    Prop where
  own : ∀ record ∈ written "permission_grants",
    (∃ template, Keeps template order.scope record) ∧
      ∃ number : GrantId, record "id" = .int number.value
  room : (tables.append written "permission_grants").length + left.length < 2 ^ 63 - 1

variable {order : Provisioning} {tables written : Tables} {template : Template}
  {left : List Template}

section Writing

theorem Wrote.numbered (wrote : order.Wrote tables written left)
    (consistent : Consistent Schema.definitions tables) :
    ∀ record ∈ tables.append written "permission_grants",
      ∃ number : GrantId, record "id" = .int number.value := by
  intro record hrecord
  rcases Tables.mem_append.mp hrecord with htable | hown
  · exact admits_grants_int (consistent.admitted _ record htable)
  · exact (wrote.own record hown).2

theorem Wrote.congr {later : Tables} (wrote : order.Wrote tables written left)
    (same : later "permission_grants" = written "permission_grants") :
    order.Wrote tables later left where
  own := by
    rw [same]
    exact wrote.own
  room := by
    have hroom := wrote.room
    rw [Tables.append] at hroom ⊢
    rwa [same]

theorem Wrote.passed (wrote : order.Wrote tables written (template :: left)) :
    order.Wrote tables written left where
  own := wrote.own
  room := by
    have hroom := wrote.room
    rw [List.length_cons] at hroom
    omega

theorem Wrote.stored (wrote : order.Wrote tables written (template :: left)) {record : Record}
    (keeps : Keeps template.id order.scope record) {number : GrantId}
    (numbered : record "id" = .int number.value) :
    order.Wrote tables (written.add "permission_grants" record) left where
  own := by
    intro other hother
    rcases Tables.mem_add.mp hother with hold | ⟨_, rfl⟩
    · exact wrote.own other hold
    · exact ⟨⟨_, keeps⟩, number, numbered⟩
  room := by
    have hroom := wrote.room
    simp only [Tables.append, Tables.add, Function.update_self, List.length_append,
      List.length_cons, List.length_nil] at hroom ⊢
    omega

/-- After a search in vain only the twin of a grant can have its place. -/
theorem Wrote.taken_iff (wrote : order.Wrote tables written left)
    (consistent : Consistent Schema.definitions tables)
    (missing : ¬ Kept (tables.append written) template.id order.scope) :
    (∃ other ∈ tables.append written "permission_grants",
        slotOf other = keyOf template.id order.scope) ↔
      ∃ twin, order.scope.Twins twin ∧ Kept tables template.id twin := by
  constructor
  · rintro ⟨other, hother, hslot⟩
    have hnot : ¬ Keeps template.id order.scope other := fun hkeeps =>
      missing ⟨other, hother, hkeeps⟩
    rcases Tables.mem_append.mp hother with htable | hown
    · have hadmitted := consistent.admitted _ other htable
      obtain ⟨twin, twins, hkeeps⟩ := ((slotOf_eq_keyOf_iff hadmitted).mp hslot).resolve_left hnot
      exact ⟨twin, twins, other, htable, hkeeps⟩
    -- A row of the transaction itself is for this scope, so its key tells its template.
    · obtain ⟨⟨own, hkeeps⟩, _⟩ := wrote.own other hown
      rw [hkeeps.slotOf] at hslot
      obtain ⟨rfl, _⟩ := keyOf_eq_iff.mp hslot
      exact absurd hkeeps hnot
  · rintro ⟨twin, twins, other, hother, hkeeps⟩
    refine ⟨other, Tables.mem_append.mpr (Or.inl hother), hkeeps.slotOf.trans ?_⟩
    exact (keyOf_eq_iff.mpr ⟨rfl, Or.inr twins⟩).symm

end Writing

section Exchanges

variable {step : Step} {answer : Answer} {done : List Grant}

/-- Every exchange is accounted for. -/
def AllAccounted (order : Provisioning) (tables : Tables)
    (left : Transcript Command.Answer (Except StorageError (List Grant)) (Server Unit)) : Prop :=
  ∀ exchange ∈ left.asked, Accounted tables order.scope exchange

theorem accounted_of_not_store (h : ∀ template, step ≠ .store template) :
    Accounted tables order.scope ⟨order.command step, answer⟩ := by
  intro template hsame
  have hstatement : (order.command step).statement = insertGrant := congrArg Command.statement hsame
  cases step with
  | store template => exact absurd rfl (h template)
  | link grant =>
      have hlength := congrArg (fun command : Command => command.parameters.length) hsame
      cases hlength
  | _ => cases hstatement

theorem accounted_store
    (h : (∃ text, answer = .error (.rejected DatabaseError.uniqueViolation text)) ↔
      ∃ twin, order.scope.Twins twin ∧ Kept tables template.id twin) :
    Accounted tables order.scope ⟨order.command (.store template), answer⟩ := by
  intro own hsame
  have hkey := congrArg (fun command : Command => command.parameters.head?) hsame
  have hid : template.id = own := by
    apply RowId.value_inj.mp
    exact Value.int.inj (Option.some.inj hkey)
  rw [← hid]
  exact h

theorem ensures_accounted {server : Server Unit}
    (answered : ∃ answer after,
      Handles Schema.definitions server (order.command step) answer after)
    (leads : ∀ answer after, Handles Schema.definitions server (order.command step) answer after →
      Accounted tables order.scope ⟨order.command step, answer⟩ ∧
        Ensures Schema.definitions (order.talk (order.advance step done left answer)) after
          (order.AllAccounted tables)) :
    Ensures Schema.definitions (order.talk (.asking step done left)) server
      (order.AllAccounted tables) := by
  refine ensures_asking answered fun answer after h => ?_
  obtain ⟨haccounted, hrest⟩ := leads answer after h
  refine hrest.mono fun later hlater => ?_
  exact List.forall_mem_cons.mpr ⟨haccounted, hlater⟩

theorem accounted_undoing (error : StorageError) :
    Ensures Schema.definitions (order.talk (.undoing error)) (.lone tables .failed)
      (order.AllAccounted tables) := by
  refine (ensures_undoing error).mono fun later hlater => ?_
  obtain ⟨_, _, _, answer, hasked⟩ := hlater
  rw [AllAccounted, hasked, List.forall_mem_singleton]
  intro template hsame
  cases congrArg Command.statement hsame

end Exchanges

section Rounds

variable {done : List Grant} {grant : Grant}

theorem accounted_link (wrote : order.Wrote tables written left)
    (goes : ∀ later, order.Wrote tables later left →
      Ensures Schema.definitions (order.talk (turn (done ++ [grant]) left))
        (.lone tables (.active later)) (order.AllAccounted tables)) :
    Ensures Schema.definitions (order.talk (.asking (.link grant) done left))
      (.lone tables (.active written)) (order.AllAccounted tables) := by
  refine ensures_accounted exists_handles_link fun answer after h => ?_
  refine ⟨accounted_of_not_store fun _ => Step.noConfusion, ?_⟩
  rcases handles_link h with ⟨hread, later, hsame, rfl⟩ | ⟨error, hread, rfl⟩
  · rw [advance, hread]
    exact goes later (wrote.congr hsame)
  · rw [advance, hread]
    exact accounted_undoing error

theorem accounted_storing (consistent : Consistent Schema.definitions tables)
    (stocked : Stocks tables template.id) (wrote : order.Wrote tables written (template :: left))
    (missing : ¬ Kept (tables.append written) template.id order.scope)
    (goes : ∀ grant later, order.Wrote tables later left →
      Ensures Schema.definitions (order.talk (turn (done ++ [grant]) left))
        (.lone tables (.active later)) (order.AllAccounted tables)) :
    Ensures Schema.definitions (order.talk (.asking (.store template) done left))
      (.lone tables (.active written)) (order.AllAccounted tables) := by
  have hroom : (tables.append written "permission_grants").length < 2 ^ 63 - 1 := by
    have hroom := wrote.room
    omega
  have hstocked : Stocks (tables.append written) template.id := by
    obtain ⟨row, hrow, hid⟩ := stocked
    exact ⟨row, Tables.mem_append.mpr (Or.inl hrow), hid⟩
  have htaken := wrote.taken_iff consistent missing
  refine ensures_accounted (exists_handles_insertion template.id order.scope hroom)
    fun answer after h => ?_
  rcases handles_store hstocked h with
    ⟨record, grant, hkeeps, ⟨number, hnumber⟩, hfree, ⟨reply, rfl⟩, hread, rfl⟩ |
    ⟨hoccupied, htext, hread, rfl⟩
  · refine ⟨accounted_store ?_, ?_⟩
    · rw [← htaken]
      apply iff_of_false
      · simp
      · exact fun ⟨other, hother, hslot⟩ => hfree other hother hslot
    · rw [advance, hread]
      exact accounted_link (wrote.stored hkeeps hnumber) (goes grant)
  · refine ⟨accounted_store ?_, ?_⟩
    · rw [← htaken]
      exact iff_of_true htext hoccupied
    · rw [advance, hread]
      exact accounted_undoing _

/-- The rounds of the templates that are left. -/
theorem accounted_turn (consistent : Consistent Schema.definitions tables)
    (stocked : ∀ template ∈ left, Stocks tables template.id)
    (wrote : order.Wrote tables written left) :
    Ensures Schema.definitions (order.talk (turn done left)) (.lone tables (.active written))
      (order.AllAccounted tables) := by
  -- From round to round `Wrote` is kept: what is inserted is for the scope.
  induction left generalizing done written with
  | nil =>
      refine (ensures_committing done []).mono fun later hlater => ?_
      obtain ⟨_, _, _, answer, hasked⟩ := hlater
      rw [AllAccounted, hasked, List.forall_mem_singleton]
      exact accounted_of_not_store fun _ => Step.noConfusion
  | cons template left ih =>
      have hgoes : ∀ grant later, order.Wrote tables later left →
          Ensures Schema.definitions (order.talk (turn (done ++ [grant]) left))
            (.lone tables (.active later)) (order.AllAccounted tables) := fun _ _ =>
        ih fun own hown => stocked own (List.mem_cons_of_mem template hown)
      refine ensures_accounted exists_handles_select fun answer after h => ?_
      refine ⟨accounted_of_not_store fun _ => Step.noConfusion, ?_⟩
      obtain ⟨rfl, ⟨hread, missing⟩ | ⟨_, grant, hread⟩⟩ :=
        handles_find (wrote.numbered consistent) h
      · rw [advance, hread]
        exact accounted_storing consistent (stocked _ List.mem_cons_self) wrote missing hgoes
      · rw [advance, hread]
        exact accounted_link wrote.passed (hgoes grant)

/-- All of a provisioning, from its first statement. -/
theorem accounted_talk (consistent : Consistent Schema.definitions tables)
    (room : (tables "permission_grants").length + (tables "permission_templates").length <
      2 ^ 63 - 1) :
    Ensures Schema.definitions (order.talk (.asking .begin [] [])) (.lone tables .idle)
      (order.AllAccounted tables) := by
  obtain ⟨templates, hlists⟩ := exists_lists consistent order.kind
  refine ensures_opening hlists fun answer answer' => ?_
  have hwrote : order.Wrote tables .empty templates := by
    refine ⟨fun record hnone => absurd hnone List.not_mem_nil, ?_⟩
    have hshort := hlists.short
    rw [Tables.append_empty]
    omega
  refine (accounted_turn consistent hlists.stored hwrote).mono fun later hlater => ?_
  have hplain (step : Step) (answer : Answer) (other : ∀ template, step ≠ .store template) :
      Accounted tables order.scope ⟨order.command step, answer⟩ := accounted_of_not_store other
  simp only [AllAccounted, List.forall_mem_cons]
  exact ⟨hplain _ _ fun _ => Step.noConfusion, hplain _ _ fun _ => Step.noConfusion, hlater⟩

end Rounds

end Provisioning

section Index

/-- The key of the unique index tells all scopes apart but twins. So on a database
with one client, which satisfies its constraints and has numbers left, a grant is
refused as a duplicate if a store with the same content refuses it or its twin so;
and what a provisioning inserts after a search in vain is refused as a duplicate
just if there is its twin. -/
theorem unique_index_confuses_just_twins (template : TemplateId) (scope : Scope) :
    (∀ other, keyOf template scope = keyOf template other ↔ scope = other ∨ scope.Twins other) ∧
      ∀ tables, Consistent Schema.definitions tables →
        (tables "permission_grants").length + (tables "permission_templates").length <
          2 ^ 63 - 1 →
        (∀ store, Mirrors tables store → store.Keyed →
          Ensures Schema.definitions (write (.createGrant template scope)).run
            (.lone tables .idle) fun left =>
              (∃ what, left.result = .error (.duplicate what)) ↔
                (∃ what, (store.write (.createGrant template scope)).1 =
                    .error (.duplicate what)) ∨
                  ∃ twin, scope.Twins twin ∧ ∃ what,
                    (store.write (.createGrant template twin)).1 = .error (.duplicate what)) ∧
        ∀ kind id owner,
          Ensures Schema.definitions (write (.provisionDefaults kind id owner)).run
            (.lone tables .idle) fun left =>
              ∀ exchange ∈ left.asked, Accounted tables (.composite id) exchange := by
  refine ⟨fun other => ?_, fun tables consistent room => ⟨?_, ?_⟩⟩
  · rw [keyOf_eq_iff]
    exact and_iff_right rfl
  · intro store mirrors keyed
    have hcreated := ensures_created consistent (by omega) template scope
    exact hcreated.mono fun left created => created.duplicate_iff_store mirrors keyed
  · intro kind id owner
    let order : Provisioning := ⟨kind, id, owner⟩
    have htalk : (write (.provisionDefaults kind id owner)).run =
        order.talk (.asking .begin [] []) := order.write_provisionDefaults
    rw [htalk]
    exact Provisioning.accounted_talk consistent room

/-- A template and its grant for an object alone. -/
def clientless : Store :=
  Store.empty.after [.createTemplate "perspective" "edit" [.perspective],
    .createGrant ⟨1⟩ (.object 5)]

theorem mem_clientless {table : String} {record : Record}
    (h : record ∈ tablesOf clientless table) :
    table = "permission_templates" ∧ record = recordOf templateColumns
        (templateCells ⟨⟨1⟩, "perspective", "edit", false, true⟩) ∨
      table = "permission_grants" ∧ record = recordOf ["id", "template_id", "is_override",
          "subject_client_id", "subject_object_id"]
        (grantCells ⟨⟨2⟩, ⟨1⟩, "perspective", "edit", .object 5⟩) := by
  unfold tablesOf at h
  split at h
  case h_5 => exact Or.inl ⟨rfl, List.mem_singleton.mp h⟩
  case h_6 => exact Or.inr ⟨rfl, List.mem_singleton.mp h⟩
  all_goals exact absurd h List.not_mem_nil

theorem consistent_clientless : Consistent Schema.definitions (tablesOf clientless) where
  admitted := by
    intro table record h
    rcases mem_clientless h with ⟨rfl, rfl⟩ | ⟨rfl, rfl⟩
    · decide
    · decide
  distinct := by
    intro table
    unfold tablesOf
    split
    case h_5 => exact List.pairwise_singleton ..
    case h_6 => exact List.pairwise_singleton ..
    all_goals exact .nil
  referred := by
    intro table record h
    rcases mem_clientless h with ⟨rfl, rfl⟩ | ⟨rfl, rfl⟩
    · exact refers_of_no_reference (by decide)
    · have hkeeps : Keeps ⟨1⟩ (.object 5) (recordOf ["id", "template_id", "is_override",
          "subject_client_id", "subject_object_id"]
          (grantCells ⟨⟨2⟩, ⟨1⟩, "perspective", "edit", .object 5⟩)) := ⟨rfl, rfl, rfl, rfl⟩
      exact hkeeps.refers (.head _) rfl

/-- With the grant for an object alone in the tables, the grant for the same
object and the client minus one is refused; the store has both. -/
theorem twin_of_clientless_is_refused :
    Consistent Schema.definitions (tablesOf clientless) ∧
      Mirrors (tablesOf clientless) clientless ∧
      (Ensures Schema.definitions (write (.createGrant ⟨1⟩ (.composite ⟨-1, 5⟩))).run
        (.lone (tablesOf clientless) .idle) fun left =>
          ∃ what, left.result = .error (.duplicate what)) ∧
      ∃ grant, (clientless.write (.createGrant ⟨1⟩ (.composite ⟨-1, 5⟩))).1 = .ok grant := by
  have hmirrors : Mirrors (tablesOf clientless) clientless :=
    mirrors_tablesOf (Store.integral_after_writes Store.integral_empty _ (by decide)).instantiated
  have hcreation := ((unique_index_confuses_just_twins ⟨1⟩ (.composite ⟨-1, 5⟩)).2 _
    consistent_clientless (by decide)).1 clientless hmirrors (Store.keyed_after _)
  refine ⟨consistent_clientless, hmirrors, hcreation.mono fun left hleft => ?_, _, rfl⟩
  exact hleft.mpr (Or.inr ⟨.object 5, ⟨5, Or.inr ⟨rfl, rfl⟩⟩, _, rfl⟩)

/-- It is not so that only equal scopes have one key. -/
theorem unique_index_confuses_scopes :
    ¬ ∀ (template : TemplateId) (first second : Scope),
      keyOf template first = keyOf template second → first = second := by
  intro injective
  cases injective ⟨1⟩ (.object 5) (.composite ⟨-1, 5⟩) rfl

end Index

end AccessGrants.Database
