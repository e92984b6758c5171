import AccessGrants.Proofs.Database.Replies
import AccessGrants.Proofs.Likeness
import AccessGrants.Proofs.Store.Growth

/-!
Two backends and one decision. A store answers the reads from its own state and
a database by queries over its tables. Where the tables mirror the store, each
of the reads is answered alike, and so whatever the service asks, it comes to the
same decision and the same principals over both.
-/

namespace AccessGrants

theorem Visibility.text_ofText (state : String) : (ofText state).text = state := by
  unfold ofText
  split_ifs with hpublished hlimited hdraft hhidden
  · exact hpublished.symm
  · exact hlimited.symm
  · exact hdraft.symm
  · exact hhidden.symm
  · rfl

/-- Every state of the store is one that is read from a text. -/
def Store.Parsed (store : Store) : Prop :=
  store.visibility.All fun _ state => ∃ text, state = Visibility.ofText text

namespace Database

open Sql

variable {σ : Type} {tables : Tables} {store : Store}
  {partner : (command : Command) → σ → command.Answer × σ}

/-- To every command that a read sends, the partner gives a reply that the
command has over the tables. -/
def Serves (tables : Tables) (partner : (command : Command) → σ → command.Answer × σ) : Prop :=
  ∀ (question : Read) (state : σ), ∀ exchange ∈ (read question).run.exchanges partner state,
    ∃ reply, exchange.answer = .ok reply ∧
      Answers tables exchange.question.parameters exchange.question.statement reply

theorem Serves.replies (serves : Serves tables partner) (question : Read) {command : Command}
    {next : command.Answer → Dialogue Command Command.Answer (Except StorageError question.Result)}
    (hsent : (read question).run = .ask command next) (state : σ) :
    ∃ reply, (partner command state).1 = .ok reply ∧
      Answers tables command.parameters command.statement reply := by
  apply serves question state ⟨command, (partner command state).1⟩
  rw [hsent]
  exact List.mem_cons_self

section Answering

variable (mirrors : Mirrors tables store) (keyed : store.Keyed) (parsed : store.Parsed)
  (serves : Serves tables partner)

include mirrors keyed parsed serves

/-- Each read is answered by the database as by the store. -/
theorem read_alike (question : Read) (state : σ) :
    ∃ value, ((read question).run.run partner state).result = .ok value ∧
      question.Alike (store.read question) value := by
  cases question with
  | actorForSession session =>
      obtain ⟨reply, hreply, hanswers⟩ := serves.replies (.actorForSession session) rfl state
      have hdecode : reply.first? actorOfRow = .ok (store.actorForSession session) :=
        first?_of_rows (mem_rows_actorForSession mirrors keyed hanswers) fun _ _ => rfl
      exact ⟨_, result_fetch hreply hdecode, rfl⟩
  | actorGrants actor subject =>
      obtain ⟨reply, hreply, hanswers⟩ := serves.replies (.actorGrants actor subject) rfl state
      obtain ⟨grants, hrows, hgrants⟩ :=
        rows_of_grants (mem_rows_actorGrants mirrors keyed hanswers)
      exact ⟨grants, result_fetchGrants hreply hrows, fun grant => (hgrants grant).symm⟩
  | organizationGrants actor subject =>
      obtain ⟨reply, hreply, hanswers⟩ :=
        serves.replies (.organizationGrants actor subject) rfl state
      obtain ⟨grants, hrows, hgrants⟩ :=
        rows_of_grants (mem_rows_organizationGrants mirrors keyed hanswers)
      exact ⟨grants, result_fetchGrants hreply hrows, fun grant => (hgrants grant).symm⟩
  | subjectGrants subject target =>
      obtain ⟨reply, hreply, hanswers⟩ := serves.replies (.subjectGrants subject target) rfl state
      obtain ⟨grants, hrows, hgrants⟩ :=
        rows_of_grants (mem_rows_subjectGrants mirrors keyed hanswers)
      exact ⟨grants, result_fetchGrants hreply hrows, fun grant => (hgrants grant).symm⟩
  | grantExistsForActor wanted actor =>
      obtain ⟨reply, hreply, hanswers⟩ :=
        serves.replies (.grantExistsForActor wanted actor) rfl state
      obtain ⟨answer, hrows, hanswer⟩ := rows_grantExists mirrors keyed .actor hanswers
      refine ⟨answer, result_fetch hreply (first_of_rows hrows), ?_⟩
      exact Bool.eq_iff_iff.mpr (Store.grantExistsForActor_iff.trans hanswer.symm)
  | grantExistsForOrganizations wanted actor =>
      obtain ⟨reply, hreply, hanswers⟩ :=
        serves.replies (.grantExistsForOrganizations wanted actor) rfl state
      obtain ⟨answer, hrows, hanswer⟩ := rows_grantExists mirrors keyed .organizations hanswers
      refine ⟨answer, result_fetch hreply (first_of_rows hrows), ?_⟩
      exact Bool.eq_iff_iff.mpr (Store.grantExistsForOrganizations_iff.trans hanswer.symm)
  | visibility id =>
      obtain ⟨reply, hreply, hanswers⟩ := serves.replies (.visibility id) rfl state
      have hrows := mem_rows_visibilityOf mirrors hanswers
      refine ⟨_, result_fetch hreply (first?_of_rows hrows fun state hstate => ?_), rfl⟩
      obtain ⟨text, rfl⟩ := parsed id state hstate
      exact congrArg (fun text => Except.ok (Visibility.ofText text)) (Visibility.text_ofText text)

theorem answerAlike_through :
    AnswerAlike store.constant (Dialogue.through partner fun question => (read question).run) := by
  intro question _ state
  obtain ⟨value, hvalue, halike⟩ := read_alike mirrors keyed parsed serves question state
  exact ⟨store.read question, value, rfl, hvalue, halike⟩

end Answering

/-- A call to which neither of the two makes a difference comes to one value over both. -/
theorem serve_eq_consult {ε α : Type} {call : ExceptT ε (Dialogue Read Read.Answer) α}
    (h : Concur store.constant (Dialogue.through partner fun question => (read question).run) Eq
      call call) (state : σ) :
    ∃ value, store.consult call.run = .ok value ∧
      ((serve call).run.run partner state).result = .ok value := by
  obtain ⟨value, _, hvalue, hserved, rfl⟩ := h () state
  refine ⟨value, (store.consult_eq_run call.run).trans hvalue, ?_⟩
  exact (Dialogue.run_relay partner _ call.run state).trans hserved

/-- Over a server that replies from tables that mirror a store, the service
decides every request and resolves every caller as it does over the store. The
store is any that comes about by writes, as long as its states are read from
texts. -/
theorem backends_decide_alike (writes : List Write) (parsed : (Store.empty.after writes).Parsed)
    (mirrors : Mirrors tables (Store.empty.after writes)) (serves : Serves tables partner)
    (service : Service) (state : σ) :
    (∀ input, ∃ allowed,
      (Store.empty.after writes).consult (service.checkPermission input).run = .ok allowed ∧
        ((serve (service.checkPermission input)).run.run partner state).result = .ok allowed) ∧
    ∀ raw cookie subject, ∃ resolution,
      (Store.empty.after writes).consult (service.resolvePrincipals raw cookie subject).run =
          .ok resolution ∧
        ((serve (service.resolvePrincipals raw cookie subject)).run.run partner state).result =
          .ok resolution := by
  have alike := answerAlike_through mirrors (Store.keyed_after writes) parsed serves
  refine ⟨?_, ?_⟩
  · intro input
    exact serve_eq_consult (service.concur_checkPermission alike input) state
  · intro raw cookie subject
    exact serve_eq_consult (service.concur_resolvePrincipals alike raw cookie subject) state

section Responding

/-- A partner that only ever looks at the tables serves them. -/
theorem serves_respond (tables : Tables) :
    Serves tables fun command (state : σ) => (respond tables command, state) := by
  intro question state exchange hexchange
  cases question with
  | actorForSession session =>
      obtain rfl := List.mem_singleton.mp hexchange
      exact ⟨_, rfl, .select (Select.yields_rows tables _ _)⟩
  | visibility id =>
      obtain rfl := List.mem_singleton.mp hexchange
      exact ⟨_, rfl, .select (Select.yields_rows tables _ _)⟩
  | grantExistsForActor wanted actor | grantExistsForOrganizations wanted actor =>
      obtain rfl := List.mem_singleton.mp hexchange
      exact ⟨_, rfl, .selectExists _ _⟩
  | _ =>
      simp only [read, run_fetchGrants] at hexchange
      obtain rfl := List.mem_singleton.mp hexchange
      exact ⟨_, rfl, .select (Select.yields_rows tables _ _)⟩

/-- A published instance, and a member of an organization with a grant for it. -/
def publication : List Write :=
  [.createActor, .openSession ⟨1⟩, .createOrganization "editors", .addMember ⟨3⟩ ⟨1⟩,
    .createTemplate "perspective" "edit" [], .createGrant ⟨4⟩ (.composite ⟨5, 42⟩),
    .assignToOrganization ⟨5⟩ ⟨3⟩, .setVisibility ⟨5, 42⟩ (.ofText "Published")]

/-- The member may edit, as its organization's rows in the tables say. -/
theorem member_edits_over_tables :
    let store := Store.empty.after publication
    let tables := tablesOf store
    let partner := fun (command : Command) (state : Unit) => (respond tables command, state)
    let service : Service := ⟨.standard, false, .verify⟩
    let input : CheckInput := ⟨some ⟨2⟩, none, "edit", "perspective", .composite ⟨5, 42⟩⟩
    store.Parsed ∧ Mirrors tables store ∧ Serves tables partner ∧
      store.consult (service.checkPermission input).run = .ok true ∧
      ((serve (service.checkPermission input)).run.run partner ()).result = .ok true := by
  intro store tables partner service input
  have hparsed : store.Parsed := Table.all_empty.insert ⟨"Published", rfl⟩
  have hbound : store.issued < Store.numberLimit := by decide
  have hmirrors : Mirrors tables store :=
    mirrors_tablesOf (Store.integral_after_writes Store.integral_empty publication
      hbound).instantiated
  have hserves : Serves tables partner := serves_respond tables
  obtain ⟨allowed, hallowed, hserved⟩ :=
    (backends_decide_alike publication hparsed hmirrors hserves service ()).1 input
  have htrue : store.consult (service.checkPermission input).run = .ok true := by rfl
  rw [htrue, Except.ok.injEq] at hallowed
  exact ⟨hparsed, hmirrors, hserves, htrue, hallowed ▸ hserved⟩

end Responding

end Database

end AccessGrants
