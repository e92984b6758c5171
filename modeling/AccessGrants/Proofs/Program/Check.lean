import AccessGrants.Program
import AccessGrants.Proofs.AuditTrail
import AccessGrants.Proofs.Database.Decoding

/-!
How the check command ends. It prints the verdict of the evaluator on the replies that
it got, or it fails and prints nothing: because the target is none, because there is no
connection, or because of a reply that is of no use. A check that fails leaves no
verdict on the audit trail, and it sends nothing after such a reply. So no fault is ever
told as a decision.
-/

namespace AccessGrants.Program

open Sql Database Dialogue

variable {α σ : Type} (answer : (request : Request) → σ → request.Answer × σ)

/-- A read with the reply to the command that it sent. -/
structure Served where
  question : Read
  reply : Except DatabaseError Reply

namespace Served

def sent (served : Served) : Exchange Request.Answer :=
  ⟨.send (commandOf served.question), served.reply⟩

def read (served : Served) : Exchange Read.Answer :=
  ⟨served.question, answerOf served.question served.reply⟩

def Unusable (served : Served) : Prop :=
  Database.Unusable served.question served.reply

/-- The server refused the command, or has a row in its reply that is not of the kind
that is looked for. -/
def Faulty (served : Served) : Prop :=
  (∃ error, served.reply = .error error) ∨
    ∃ given, served.reply = .ok given ∧ ∃ row ∈ given.rows, ¬Decodable served.question row

theorem answered_read_iff (served : Served) : served.read.Answered ↔ ¬served.Unusable :=
  exists_answerOf_iff

end Served

/-- A store behind the connection: it answers a read from the reply to its command. -/
def replying (question : Read) (state : σ) : question.Answer × σ :=
  let (reply, after) := answer (.send (commandOf question)) state
  (answerOf question reply, after)

/-- A dialogue that is held over the connection comes to what it comes to with the
store behind it, and for each read one command is sent. -/
theorem transcript_relay (dialogue : Dialogue Read Read.Answer α) (state : σ) :
    ∃ served : List Served,
      (dialogue.transcript (replying answer) state).asked = served.map Served.read ∧
        ((dialogue.relay fun question => (Database.read question).run).relay
          fun command => .ask (.send command) .done).transcript answer state =
            ⟨(dialogue.transcript (replying answer) state).result,
              (dialogue.transcript (replying answer) state).audit, served.map Served.sent,
              (dialogue.transcript (replying answer) state).left⟩ := by
  induction dialogue generalizing state with
  | done result => exact ⟨[], rfl, rfl⟩
  | report event rest ih =>
      obtain ⟨served, hasked, hrelayed⟩ := ih state
      refine ⟨served, ?_, ?_⟩
      · rw [transcript_report]
        exact hasked
      · rw [relay, relay, transcript_report, hrelayed, transcript_report]
  | ask question next ih =>
      obtain ⟨served, hasked, hrelayed⟩ := ih (replying answer question state).1
        (replying answer question state).2
      let first : Served := ⟨question, (answer (.send (commandOf question)) state).1⟩
      refine ⟨first :: served, congrArg (first.read :: ·) hasked, ?_⟩
      rw [relay, run_read]
      exact congrArg (fun rest : Transcript Request.Answer α σ =>
        { rest with asked := first.sent :: rest.asked }) hrelayed

/-- A call that is carried out over the connection. -/
theorem transcript_serve (call : Service.Call α) (state : σ) :
    ∃ served : List Served,
      (call.run.transcript (replying answer) state).asked = served.map Served.read ∧
        (Action.serve call).run.transcript answer state =
          ⟨(call.run.transcript (replying answer) state).result.mapError .service,
            (call.run.transcript (replying answer) state).audit, served.map Served.sent,
            (call.run.transcript (replying answer) state).left⟩ := by
  obtain ⟨served, hasked, hrelayed⟩ := transcript_relay answer call.run state
  exact ⟨served, hasked, transcript_map _ hrelayed⟩

section Connecting

variable (settings : Settings) (state : σ)

/-- What comes of the attempt to connect. -/
def opened : Transcript Request.Answer (Except Failure Unit) σ :=
  (connect settings).run.transcript answer state

/-- There is no connection: the endpoint makes no sense, or nothing is there. -/
inductive Unconnected : Prop where
  | badEndpoint (error : EndpointError) (bad : Endpoint.ofText settings.database.url = .error error)
  | unreached (endpoint : Endpoint) (error : DatabaseError)
      (good : Endpoint.ofText settings.database.url = .ok endpoint)
      (refused : (answer (.connect endpoint settings.database.maxConnections) state).1 =
        .error error)

/-- The commands among what the machine was asked, with the replies. -/
def statements (asked : List (Exchange Request.Answer)) : List (Exchange Request.Answer) :=
  asked.filter fun exchange => exchange.question matches .send _

theorem statements_map_sent (served : List Served) :
    statements (served.map Served.sent) = served.map Served.sent := by
  rw [statements, List.filter_eq_self]
  intro exchange hsent
  obtain ⟨reply, -, rfl⟩ := List.mem_map.mp hsent
  rfl

theorem statements_append (asked others : List (Exchange Request.Answer)) :
    statements (asked ++ others) = statements asked ++ statements others :=
  List.filter_append asked others

/-- What is asked of the machine for a connection, and how it goes on. -/
theorem opened_of_endpoint {endpoint : Endpoint} {given : Except DatabaseError Unit} {left : σ}
    (good : Endpoint.ofText settings.database.url = .ok endpoint)
    (h : answer (.connect endpoint settings.database.maxConnections) state = (given, left)) :
    opened answer settings state =
      ⟨given.mapError fun error => .connection (.ofDatabase error), [],
        [⟨.connect endpoint settings.database.maxConnections, given⟩], left⟩ := by
  have hasked : (Action.ask (.connect endpoint settings.database.maxConnections)).run.transcript
      answer state = ⟨.ok given, [], [⟨.connect endpoint settings.database.maxConnections, given⟩],
        left⟩ := by
    refine transcript_map Except.ok ?_
    rw [transcript_ask, h]
    rfl
  rw [opened, connect, good]
  dsimp only
  rw [transcript_call_bind hasked]
  cases given <;> rfl

/-- There is no connection, or there is one; nothing is sent before. -/
theorem opened_cases :
    (Unconnected answer settings state ∧ ∃ error asked left, statements asked = [] ∧
      opened answer settings state = ⟨.error (.connection error), [], asked, left⟩) ∨
    (¬Unconnected answer settings state ∧ ∃ asked left, statements asked = [] ∧
      opened answer settings state = ⟨.ok (), [], asked, left⟩) := by
  cases hendpoint : Endpoint.ofText settings.database.url with
  | error error =>
      refine Or.inl ⟨.badEndpoint error hendpoint, .ofDatabase (.badEndpoint error), [], state,
        rfl, ?_⟩
      rw [opened, connect, hendpoint]
      rfl
  | ok endpoint =>
      cases hgiven : answer (.connect endpoint settings.database.maxConnections) state with
      | mk given left =>
          have hopened := opened_of_endpoint answer settings state hendpoint hgiven
          cases given with
          | error error =>
              exact Or.inl ⟨.unreached endpoint error hendpoint (congrArg Prod.fst hgiven),
                _, _, _, rfl, hopened⟩
          | ok given =>
              refine Or.inr ⟨?_, _, _, rfl, hopened⟩
              rintro (⟨error, hbad⟩ | ⟨other, error, hgood, hrefused⟩)
              · rw [hendpoint] at hbad
                cases hbad
              · rw [hendpoint] at hgood
                cases hgood
                rw [hgiven] at hrefused
                cases hrefused

end Connecting

section Transcripts

variable {answer} {settings : Settings} {session : Option Int64} {cookie : Option String}
  {action subject target : String} {evaluator : Option Evaluator} {state : σ}

theorem transcript_check_unrecognized {error : CheckError}
    (unread : Target.ofText target = .error error) :
    (check settings session cookie action subject target evaluator).run.transcript answer state =
      ⟨.error (.target error), [], [], state⟩ := by
  rw [check, unread]
  rfl

variable {place : Target} (read : Target.ofText target = .ok place)
include read

theorem transcript_check_unconnected {failure : Failure} {asked : List (Exchange Request.Answer)}
    {left : σ} (h : opened answer settings state = ⟨.error failure, [], asked, left⟩) :
    (check settings session cookie action subject target evaluator).run.transcript answer state =
      ⟨.error failure, [], asked, left⟩ := by
  rw [check, read]
  exact transcript_call_bind_error h

/-- The check of a target that is read, once the connection is there. -/
theorem transcript_check_served {asked served : List (Exchange Request.Answer)} {left last : σ}
    {result : Except ServiceError Bool} {audit : List Event}
    (hopened : opened answer settings state = ⟨.ok (), [], asked, left⟩)
    (hserved : (Action.serve ((serviceOf settings evaluator).checkPermission
      ⟨session.map RowId.mk, cookie, action, subject, place⟩)).run.transcript answer left =
        ⟨result.mapError .service, audit, served, last⟩) :
    (check settings session cookie action subject target evaluator).run.transcript answer state =
      ⟨(result.mapError .service).map fun allowed => [if allowed then "allowed" else "denied"],
        audit, asked ++ served, last⟩ := by
  rw [check, read]
  dsimp only
  rw [transcript_call_bind hopened]
  cases result with
  | error error =>
    rw [transcript_call_bind_error hserved]
    rfl
  | ok allowed =>
    rw [transcript_call_bind hserved]
    have hreported : ∀ line : String,
        (Action.report (.checkFinished (serviceOf settings evaluator).evaluator.name allowed) >>=
          fun _ => pure [line] : Action (List String)).run.transcript answer last =
            ⟨.ok [line], [], [], last⟩ := fun _ => rfl
    rw [hreported]
    simp [Transcript.followed, Except.mapError, Except.map]

end Transcripts

section Ends

variable (settings : Settings) (session : Option Int64) (cookie : Option String)
  (action subject target : String) (evaluator : Option Evaluator) (state : σ)

/-- The service that a check asks: the evaluator of the settings, unless the command
line names another one. -/
def chosenService : Service :=
  ⟨settings.policy, settings.desktop, evaluator.getD settings.evaluator⟩

/-- The request that a check puts, of the session in effect. -/
def requestOf (place : Target) : AccessGrants.Request :=
  ⟨SessionId.inEffect settings.desktop (session.map RowId.mk) cookie, action, subject, place⟩

/-- What makes a check fail: its target is none, there is no connection, or a reply is
of no use. -/
def Fails (served : List Served) : Prop :=
  (∃ error, Target.ofText target = .error error) ∨ Unconnected answer settings state ∨
    ∃ reply ∈ served, reply.Unusable

/-- The four ends of a check, with the reads that were served on the way. -/
inductive Ends : List Served → Transcript Request.Answer (Except Failure (List String)) σ →
    Prop where
  | unrecognized {error : CheckError} (unread : Target.ofText target = .error error) :
      Ends [] ⟨.error (.target error), [], [], state⟩
  | unconnected {place : Target} {error : StorageError} {asked : List (Exchange Request.Answer)}
      {left : σ} (read : Target.ofText target = .ok place)
      (unconnected : Unconnected answer settings state) (sent : statements asked = []) :
      Ends [] ⟨.error (.connection error), [], asked, left⟩
  /-- The reply that is of no use is the last one. -/
  | unusable {place : Target} {error : ServiceError} {before : List Served} {last : Served}
      {asked : List (Exchange Request.Answer)} {left : σ}
      (read : Target.ofText target = .ok place) (connected : ¬Unconnected answer settings state)
      (usable : ∀ reply ∈ before, ¬reply.Unusable) (unusable : last.Unusable)
      (sent : statements asked = (before ++ [last]).map Served.sent) :
      Ends (before ++ [last]) ⟨.error (.service error), [], asked, left⟩
  | concluded {place : Target} {allowed : Bool} {audit : List Event} {served : List Served}
      {asked : List (Exchange Request.Answer)} {left : σ}
      (read : Target.ofText target = .ok place) (connected : ¬Unconnected answer settings state)
      (usable : ∀ reply ∈ served, ¬reply.Unusable)
      (sent : statements asked = served.map Served.sent)
      (concluded : Service.Concluded (replying answer) (opened answer settings state).left
        (chosenService settings evaluator)
        (requestOf settings session cookie action subject place) allowed audit) :
      Ends served ⟨.ok [if allowed then "allowed" else "denied"], audit, asked, left⟩

/-- Reads of which the last one was refused are of replies of which the last one is
of no use. -/
theorem exists_last_of_refused {served : List Served} {before : List (Exchange Read.Answer)}
    {question : Read} {error : StorageError}
    (h : before ++ [⟨question, .error error⟩] = served.map Served.read)
    (answers : ∀ exchange ∈ before, exchange.Answered) :
    ∃ earlier last, served = earlier ++ [last] ∧ (∀ reply ∈ earlier, ¬reply.Unusable) ∧
      last.Unusable := by
  obtain ⟨earlier, later, rfl, hearlier, hlater⟩ := List.map_eq_append_iff.mp h.symm
  obtain ⟨last, rfl, hlast⟩ := List.map_eq_singleton_iff.mp hlater
  refine ⟨earlier, last, rfl, ?_, ?_⟩
  · intro reply hreply
    rw [← reply.answered_read_iff]
    apply answers
    rw [← hearlier]
    exact List.mem_map_of_mem hreply
  · refine Classical.byContradiction fun husable => ?_
    have hanswered : last.read.Answered := last.answered_read_iff.mpr husable
    rw [hlast] at hanswered
    exact hanswered.not_failed ⟨error, rfl⟩

theorem check_ends :
    ∃ served, Ends answer settings session cookie action subject target evaluator state served
      ((check settings session cookie action subject target evaluator).run.transcript answer
        state) := by
  cases hread : Target.ofText target with
  | error error =>
      rw [transcript_check_unrecognized hread]
      exact ⟨[], .unrecognized hread⟩
  | ok place =>
      rcases opened_cases answer settings state with
        ⟨hunconnected, error, asked, left, hsilent, hopened⟩ |
        ⟨hconnected, opening, left, hsilent, hopened⟩
      · rw [transcript_check_unconnected hread hopened]
        exact ⟨[], .unconnected hread hunconnected hsilent⟩
      · obtain ⟨served, hasked, hserved⟩ := transcript_serve answer
          ((serviceOf settings evaluator).checkPermission
            ⟨session.map RowId.mk, cookie, action, subject, place⟩) left
        have hcarried := Service.carried_checkPermission (replying answer) left
          (serviceOf settings evaluator) ⟨session.map RowId.mk, cookie, action, subject, place⟩
        have hsent : statements (opening ++ served.map Served.sent) = served.map Served.sent := by
          rw [statements_append, hsilent, statements_map_sent, List.nil_append]
        generalize ((serviceOf settings evaluator).checkPermission
          ⟨session.map RowId.mk, cookie, action, subject, place⟩).run.transcript
            (replying answer) left = carried at hasked hserved hcarried
        rw [transcript_check_served hread hopened hserved]
        cases hcarried with
        | concluded hconcluded answers =>
            refine ⟨served, .concluded hread hconnected ?_ hsent ?_⟩
            · intro reply hreply
              have hmem : reply.read ∈ served.map Served.read := List.mem_map_of_mem hreply
              rw [← hasked] at hmem
              exact reply.answered_read_iff.mp (answers reply.read hmem)
            · rw [hopened]
              exact hconcluded
        | refused question error answers =>
            obtain ⟨earlier, last, rfl, husable, hunusable⟩ := exists_last_of_refused hasked answers
            exact ⟨earlier ++ [last], .unusable hread hconnected husable hunusable hsent⟩

variable {answer settings session cookie action subject target evaluator state}
  {served : List Served} {ended : Transcript Request.Answer (Except Failure (List String)) σ}

theorem recognized_of_read {place : Target} (read : Target.ofText target = .ok place) :
    ¬∃ error, Target.ofText target = .error error := by
  rintro ⟨error, hunread⟩
  rw [read] at hunread
  cases hunread

theorem not_fails {place : Target} (read : Target.ofText target = .ok place)
    (connected : ¬Unconnected answer settings state)
    (usable : ∀ reply ∈ served, ¬reply.Unusable) :
    ¬Fails answer settings target state served := by
  rintro (hunread | hunconnected | ⟨reply, hreply, hunusable⟩)
  · exact recognized_of_read read hunread
  · exact connected hunconnected
  · exact usable reply hreply hunusable

namespace Ends

variable (h : Ends answer settings session cookie action subject target evaluator state served
  ended)
include h

theorem sent : statements ended.asked = served.map Served.sent := by
  cases h with
  | unrecognized hunread => rfl
  | unconnected hread hunconnected hsent => exact hsent
  | unusable hread hconnected husable hunusable hsent => exact hsent
  | concluded hread hconnected husable hsent hconcluded => exact hsent

/-- There is an error where there is a cause of one. -/
theorem fails_iff_error : Fails answer settings target state served ↔
    ∃ failure, ended.result = .error failure ∧ ended.audit = [] := by
  cases h with
  | unrecognized hunread => exact iff_of_true (Or.inl ⟨_, hunread⟩) ⟨_, rfl, rfl⟩
  | unconnected hread hunconnected hsent =>
      exact iff_of_true (Or.inr (Or.inl hunconnected)) ⟨_, rfl, rfl⟩
  | unusable hread hconnected husable hunusable hsent =>
      exact iff_of_true (Or.inr (Or.inr ⟨_, List.mem_concat_self, hunusable⟩)) ⟨_, rfl, rfl⟩
  | concluded hread hconnected husable hsent hconcluded =>
      refine iff_of_false (not_fails hread hconnected husable) ?_
      rintro ⟨failure, ⟨⟩, -⟩

/-- There is a verdict where there is no cause of an error. -/
theorem not_fails_iff_concluded : ¬Fails answer settings target state served ↔
    ∃ place allowed, Target.ofText target = .ok place ∧
      ended.result = .ok [if allowed then "allowed" else "denied"] ∧
        Service.Concluded (replying answer) (opened answer settings state).left
          (chosenService settings evaluator)
          (requestOf settings session cookie action subject place) allowed ended.audit := by
  rw [h.fails_iff_error]
  cases h with
  | concluded hread hconnected husable hsent hconcluded =>
      refine iff_of_true ?_ ⟨_, _, hread, rfl, hconcluded⟩
      rintro ⟨failure, ⟨⟩, -⟩
  | unrecognized | unconnected | unusable =>
      refine iff_of_false (not_not_intro ⟨_, rfl, rfl⟩) ?_
      rintro ⟨place, allowed, -, ⟨⟩, -⟩

theorem asked_of_unrecognized (unread : ∃ error, Target.ofText target = .error error) :
    ended.asked = [] := by
  cases h with
  | unrecognized hunread => rfl
  | unconnected hread | unusable hread | concluded hread =>
      exact absurd unread (recognized_of_read hread)

theorem served_of_unconnected (unconnected : Unconnected answer settings state) :
    served = [] := by
  cases h with
  | unrecognized | unconnected => rfl
  | unusable hread hconnected | concluded hread hconnected => exact absurd unconnected hconnected

theorem usable_before_last : ∀ reply ∈ served.dropLast, ¬reply.Unusable := by
  cases h with
  | unrecognized | unconnected => simp
  | unusable hread hconnected husable hunusable hsent =>
      rw [List.dropLast_concat]
      exact husable
  | concluded hread hconnected husable hsent hconcluded =>
      exact fun reply hreply => husable reply (List.dropLast_subset served hreply)

end Ends

end Ends

/-- A check prints the verdict, or it fails and prints nothing. It fails exactly if its
target is none, if there is no connection, or if a reply to what it sent is of no
use, and then that reply is the last one. Otherwise the line says what the chosen
evaluator says on the replies, about the session in effect, and so does the audit trail. -/
theorem check_tells_verdict_or_fails (settings : Settings) (session : Option Int64)
    (cookie : Option String) (action subject target : String) (evaluator : Option Evaluator)
    (state : σ) :
    let ended := (check settings session cookie action subject target evaluator).run.transcript
      answer state
    ∃ served : List Served, statements ended.asked = served.map Served.sent ∧
      (Fails answer settings target state served ↔
        ∃ failure, ended.result = .error failure ∧ ended.audit = []) ∧
      (¬Fails answer settings target state served ↔
        ∃ place allowed, Target.ofText target = .ok place ∧
          ended.result = .ok [if allowed then "allowed" else "denied"] ∧
            Service.Concluded (replying answer) (opened answer settings state).left
              (chosenService settings evaluator)
              (requestOf settings session cookie action subject place) allowed ended.audit) ∧
      ((∃ error, Target.ofText target = .error error) → ended.asked = []) ∧
      (Unconnected answer settings state → served = []) ∧
      ∀ reply ∈ served.dropLast, ¬reply.Unusable := by
  intro ended
  obtain ⟨served, hends⟩ := check_ends answer settings session cookie action subject target
    evaluator state
  exact ⟨served, hends.sent, hends.fails_iff_error, hends.not_fails_iff_concluded,
    hends.asked_of_unrecognized, hends.served_of_unconnected, hends.usable_before_last⟩

/-- A machine that replies from a list, and with no rows when the list is at its end. -/
def scripted : (request : Request) → List Reply → request.Answer × List Reply
  | .file _, left => (.error .absent, left)
  | .connect _ _, left => (.ok (), left)
  | .send _, left => (.ok (left.headD ⟨[], 0⟩), left.tail)

/-- An actor is found for the session and a grant for the actor: the check says so. -/
theorem scripted_check_allows :
    let replies : List Reply :=
      [⟨[[.int 1, .bool true, .bool false]], 1⟩, ⟨[[.bool true]], 1⟩]
    let ended := (check .standard (some 2) none "edit" "perspective" "5:42"
      (some .direct)).run.transcript scripted replies
    ended.result = .ok ["allowed"] ∧
      ended.audit =
        [.decided "direct" (some ⟨2⟩) "perspective" "edit" (.composite ⟨5, 42⟩) true] ∧
      ∃ served : List Served, statements ended.asked = served.map Served.sent ∧
        ¬Fails scripted .standard "5:42" replies served ∧
        Service.Concluded (replying scripted) (opened scripted .standard replies).left
          ⟨.standard, false, .direct⟩
          ⟨some ⟨2⟩, "edit", "perspective", .composite ⟨5, 42⟩⟩ true ended.audit := by
  intro replies ended
  obtain ⟨served, hsent, hfails, hconcludes, -⟩ := check_tells_verdict_or_fails scripted .standard
    (some 2) none "edit" "perspective" "5:42" (some .direct) replies
  have hallowed : ended.result = .ok ["allowed"] := rfl
  have hnot : ¬Fails scripted .standard "5:42" replies served := by
    intro hfailed
    obtain ⟨failure, herror, -⟩ := hfails.mp hfailed
    cases hallowed.symm.trans herror
  obtain ⟨place, allowed, hplace, hresult, hconcluded⟩ := hconcludes.mp hnot
  have hrecognized : Target.ofText "5:42" = .ok (.composite ⟨5, 42⟩) := by decide
  cases hrecognized.symm.trans hplace
  cases allowed with
  | true => exact ⟨hallowed, rfl, served, hsent, hnot, hconcluded⟩
  | false =>
      have hdenied := hallowed.symm.trans hresult
      simp at hdenied

/-- Faulty replies alone do not tell which checks fail: this one is of a target, over
a connection and without a faulty reply, but a row has to be there that is not. -/
theorem check_fails_without_fault :
    let replies : List Reply :=
      [⟨[[.int 1, .bool true, .bool false]], 1⟩, ⟨[], 0⟩, ⟨[[.bool false]], 1⟩]
    let served : List Served :=
      [⟨.actorForSession ⟨2⟩, .ok ⟨[[.int 1, .bool true, .bool false]], 1⟩⟩,
        ⟨.grantExistsForActor ⟨"perspective", "edit", .composite ⟨5, 42⟩⟩ ⟨1⟩, .ok ⟨[], 0⟩⟩]
    let ended := (check .standard (some 2) none "edit" "perspective" "5:42"
      (some .direct)).run.transcript scripted replies
    statements ended.asked = served.map Served.sent ∧
      ¬((∃ failure, ended.result = .error failure) ↔
        (∃ error, Target.ofText "5:42" = .error error) ∨
          Unconnected scripted .standard replies ∨ ∃ reply ∈ served, reply.Faulty) := by
  intro replies served ended
  have hrecognized : Target.ofText "5:42" = .ok (.composite ⟨5, 42⟩) := by decide
  have hendpoint : (Endpoint.ofText Settings.standard.database.url).isOk = true := by decide
  have hfailed : ∃ failure, ended.result = .error failure := ⟨_, rfl⟩
  refine ⟨rfl, fun h => ?_⟩
  rcases h.mp hfailed with ⟨error, hunread⟩ | (⟨error, hbad⟩ | ⟨endpoint, error, hgood, ⟨⟩⟩) |
    ⟨reply, hreply, hfaulty⟩
  · rw [hrecognized] at hunread
    cases hunread
  · rw [hbad] at hendpoint
    cases hendpoint
  · simp only [served, List.mem_cons, List.not_mem_nil, or_false] at hreply
    rcases hreply with rfl | rfl
    · rcases hfaulty with ⟨error, ⟨⟩⟩ | ⟨given, ⟨⟩, row, hrow, hbad⟩
      obtain rfl := List.mem_singleton.mp hrow
      exact hbad ⟨⟨⟨1⟩, true, false⟩, List.prefix_refl _⟩
    · rcases hfaulty with ⟨error, ⟨⟩⟩ | ⟨given, ⟨⟩, row, hrow, hbad⟩
      cases hrow

end AccessGrants.Program
