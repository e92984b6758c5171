import AccessGrants.Proofs.Database.Provisioning
import Mathlib.Data.List.Forall2

/-!
Provisioning over a database is one transaction, whatever the database answers.
The statements that it comes to are told by the replies: a round for each default
template, of which a grant that is missing takes one statement more, and the
commit behind the last round. The first reply that is no success ends all of it;
its error is that of the whole, and what was written is undone.
-/

namespace AccessGrants.Database.Provisioning

open Sql

/-- A step with the answer that it got. -/
structure Taken where
  step : Step
  answer : Answer

variable (order : Provisioning)

def exchange (taken : Taken) : Exchange Command.Answer :=
  ⟨order.command taken.step, taken.answer⟩

/-- The answer stands for a value. -/
def Succeeds (taken : Taken) : Prop :=
  ∃ result, order.read taken.step taken.answer = .ok result

def Fails (taken : Taken) (error : StorageError) : Prop :=
  order.read taken.step taken.answer = .error error

section Grammar

/-- The grant of a template for the instance is there, or it is stored. -/
inductive Obtained (template : Template) : List Taken → Grant → Prop where
  | reused {answer : Answer} {grant : Grant}
      (found : order.read (.find template) answer = .ok (some grant)) :
      Obtained template [⟨.find template, answer⟩] grant
  | stored {answer answer' : Answer} {grant : Grant}
      (missing : order.read (.find template) answer = .ok none)
      (stored : order.read (.store template) answer' = .ok grant) :
      Obtained template [⟨.find template, answer⟩, ⟨.store template, answer'⟩] grant

/-- One round for each template: its grant is obtained and linked to the owner. -/
inductive Rounds : List Template → List Taken → List Grant → Prop where
  | none : Rounds [] [] []
  | round {template : Template} {rest : List Template} {first later : List Taken} {grant : Grant}
      {grants : List Grant} {answer : Answer} (obtained : order.Obtained template first grant)
      (linked : order.read (.link grant) answer = .ok ()) (rounds : Rounds rest later grants) :
      Rounds (template :: rest) (first ++ ⟨.link grant, answer⟩ :: later) (grant :: grants)

/-- A round that ends with a failure. -/
inductive Broken (template : Template) : List Taken → StorageError → Prop where
  | search {answer : Answer} {error : StorageError}
      (failed : order.read (.find template) answer = .error error) :
      Broken template [⟨.find template, answer⟩] error
  | store {answer answer' : Answer} {error : StorageError}
      (missing : order.read (.find template) answer = .ok none)
      (failed : order.read (.store template) answer' = .error error) :
      Broken template [⟨.find template, answer⟩, ⟨.store template, answer'⟩] error
  | link {first : List Taken} {grant : Grant} {answer : Answer} {error : StorageError}
      (obtained : order.Obtained template first grant)
      (failed : order.read (.link grant) answer = .error error) :
      Broken template (first ++ [⟨.link grant, answer⟩]) error

/-- The rounds of the templates, up to one that is broken or to the commit. -/
inductive Body (templates : List Template) : List Taken → Except StorageError (List Grant) →
    Prop where
  | broken {past rest : List Template} {template : Template} {taken last : List Taken}
      {grants : List Grant} {error : StorageError} (reached : templates = past ++ template :: rest)
      (rounds : order.Rounds past taken grants) (round : order.Broken template last error) :
      Body templates (taken ++ last) (.error error)
  | unfinished {taken : List Taken} {grants : List Grant} {answer : Answer} {error : StorageError}
      (rounds : order.Rounds templates taken grants)
      (failed : order.read .commit answer = .error error) :
      Body templates (taken ++ [⟨.commit, answer⟩]) (.error error)
  | finished {taken : List Taken} {grants : List Grant} {answer : Answer}
      (rounds : order.Rounds templates taken grants)
      (committed : order.read .commit answer = .ok ()) :
      Body templates (taken ++ [⟨.commit, answer⟩]) (.ok grants)

/-- The steps of a transaction, and what comes of them. -/
inductive Course : List Taken → Except StorageError (List Grant) → Prop where
  | unopened {answer : Answer} {error : StorageError}
      (failed : order.read .begin answer = .error error) :
      Course [⟨.begin, answer⟩] (.error error)
  | unlisted {answer answer' : Answer} {error : StorageError}
      (begun : order.read .begin answer = .ok ())
      (failed : order.read .list answer' = .error error) :
      Course [⟨.begin, answer⟩, ⟨.list, answer'⟩] (.error error)
  | listed {answer answer' : Answer} {templates : List Template} {taken : List Taken}
      {result : Except StorageError (List Grant)} (begun : order.read .begin answer = .ok ())
      (listed : order.read .list answer' = .ok templates)
      (body : order.Body templates taken result) :
      Course (⟨.begin, answer⟩ :: ⟨.list, answer'⟩ :: taken) result

variable {order} {template : Template} {rest : List Template} {first later last : List Taken}
  {grant : Grant}

theorem Body.first_broken {error : StorageError} (round : order.Broken template last error) :
    order.Body (template :: rest) last (.error error) := by
  have hrounds : order.Rounds [] [] [] := .none
  exact .broken (List.nil_append _).symm hrounds round

/-- A round before a body makes a body of one template more. -/
theorem Body.round {answer : Answer} {outcome : Except StorageError (List Grant)}
    (obtained : order.Obtained template first grant)
    (linked : order.read (.link grant) answer = .ok ()) (body : order.Body rest later outcome) :
    order.Body (template :: rest) (first ++ ⟨.link grant, answer⟩ :: later)
      (outcome.map (grant :: ·)) := by
  cases body with
  | broken reached rounds round =>
      rw [reached, ← List.cons_append, ← List.cons_append, ← List.append_assoc]
      exact .broken rfl (.round obtained linked rounds) round
  | unfinished rounds failed =>
      rw [← List.cons_append, ← List.append_assoc]
      exact .unfinished (.round obtained linked rounds) failed
  | finished rounds committed =>
      rw [← List.cons_append, ← List.append_assoc]
      exact .finished (.round obtained linked rounds) committed

end Grammar

section Paths

/-- The stages that lead on from a stage, with the statements that are sent, and
the result at the end of them. -/
inductive Path : Stage → List Taken → List (Exchange Command.Answer) →
    Except StorageError (List Grant) → Prop where
  | asking {step : Step} {done : List Grant} {left : List Template} {answer : Answer}
      {taken : List Taken} {undone : List (Exchange Command.Answer)}
      {result : Except StorageError (List Grant)}
      (later : Path (order.advance step done left answer) taken undone result) :
      Path (.asking step done left) (⟨step, answer⟩ :: taken) undone result
  | undoing (error : StorageError) (answer : Answer) :
      Path (.undoing error) [] [⟨⟨.rollBack, []⟩, answer⟩] (.error error)
  | ended (result : Except StorageError (List Grant)) : Path (.ended result) [] [] result

variable {order} {σ : Type} (partner : (command : Command) → σ → command.Answer × σ)

theorem exists_path (stage : Stage) (state : σ) :
    ∃ taken undone,
      (order.talk stage).exchanges partner state = taken.map order.exchange ++ undone ∧
        order.Path stage taken undone ((order.talk stage).run partner state).result := by
  induction stage using talk.induct order generalizing state with
  | case1 step done left ih =>
      rw [talk]
      obtain ⟨taken, undone, hsent, hpath⟩ :=
        ih (partner (order.command step) state).1 (partner (order.command step) state).2
      refine ⟨⟨step, (partner (order.command step) state).1⟩ :: taken, undone, ?_, .asking hpath⟩
      simp only [Dialogue.exchanges, hsent]
      rfl
  | case2 error =>
      rw [talk]
      exact ⟨[], _, rfl, .undoing error _⟩
  | case3 result =>
      rw [talk]
      exact ⟨[], [], rfl, .ended result⟩

variable {stage : Stage} {step : Step} {done grants : List Grant} {left templates : List Template}
  {taken : List Taken} {undone : List (Exchange Command.Answer)}
  {result : Except StorageError (List Grant)}

/-- How a transaction that has begun is closed: a failure is undone. -/
def Closes : Except StorageError (List Grant) → List (Exchange Command.Answer) → Prop
  | .ok _, undone => undone = []
  | .error _, undone => ∃ answer, undone = [⟨⟨.rollBack, []⟩, answer⟩]

/-- A step succeeds and its stage follows, or it fails and is the last one. -/
theorem Path.next (path : order.Path (.asking step done left) taken undone result) :
    (∃ answer value later, taken = ⟨step, answer⟩ :: later ∧
        order.read step answer = .ok value ∧
        order.Path (step.then value done left) later undone result) ∨
      ∃ answer error, taken = [⟨step, answer⟩] ∧ order.read step answer = .error error ∧
        result = .error error ∧ (step ≠ .begin → Closes result undone) ∧
        (step = .begin → undone = []) := by
  cases path with
  | @asking _ _ _ answer later _ _ path =>
      unfold advance at path
      cases hread : order.read step answer with
      | ok value =>
          rw [hread] at path
          exact Or.inl ⟨answer, value, later, rfl, hread, path⟩
      | error error =>
          rw [hread] at path
          right
          simp only [Step.fail] at path
          split at path
          · next hbegin =>
              cases path
              exact ⟨answer, error, rfl, hread, rfl, fun hne => absurd hbegin hne, fun _ => rfl⟩
          · next hne =>
              cases path
              exact ⟨answer, error, rfl, hread, rfl, fun _ => ⟨_, rfl⟩,
                fun hbegin => absurd hbegin hne⟩

/-- What a body comes to after the grants that are done. -/
theorem Path.body (path : order.Path (turn done left) taken undone result) :
    ∃ outcome, order.Body left taken outcome ∧ result = outcome.map (done ++ ·) ∧
      Closes result undone := by
  induction left generalizing done taken with
  | nil =>
      rcases path.next with ⟨answer, value, later, rfl, hread, hpath⟩ |
        ⟨answer, error, rfl, hread, rfl, hcloses, _⟩
      · cases hpath
        exact ⟨.ok [], .finished .none hread, by simp [Except.map], rfl⟩
      · exact ⟨.error error, .unfinished .none hread, rfl, hcloses (by decide)⟩
  | cons template left ih =>
      have hlink {first later : List Taken} {grant : Grant}
          (hobtained : order.Obtained template first grant)
          (hpath : order.Path (.asking (.link grant) done left) later undone result) :
          ∃ outcome, order.Body (template :: left) (first ++ later) outcome ∧
            result = outcome.map (done ++ ·) ∧ Closes result undone := by
        rcases hpath.next with ⟨answer, value, rest, rfl, hread, hrest⟩ |
          ⟨answer, error, rfl, hread, rfl, hcloses, _⟩
        · obtain ⟨outcome, hbody, rfl, hcloses⟩ := ih hrest
          refine ⟨outcome.map (grant :: ·), hbody.round hobtained hread, ?_, hcloses⟩
          cases outcome with
          | error error => rfl
          | ok grants => simp [Except.map]
        · exact ⟨.error error, .first_broken (.link hobtained hread), rfl, hcloses (by simp)⟩
      rcases path.next with ⟨answer, found, later, rfl, hread, hpath⟩ |
        ⟨answer, error, rfl, hread, rfl, hcloses, _⟩
      · cases found with
        | some grant => exact hlink (.reused hread) hpath
        | none =>
            rcases hpath.next with ⟨answer', grant, rest, rfl, hstored, hrest⟩ |
              ⟨answer', error, rfl, hfailed, rfl, hcloses, _⟩
            · exact hlink (.stored hread hstored) hrest
            · exact ⟨.error error, .first_broken (.store hread hfailed), rfl, hcloses (by simp)⟩
      · exact ⟨.error error, .first_broken (.search hread), rfl, hcloses (by simp)⟩

/-- From the first stage on a path is a course. -/
theorem Path.course (path : order.Path (.asking .begin [] []) taken undone result) :
    order.Course taken result ∧
      ((∃ answer, taken = [⟨.begin, answer⟩]) ∧ undone = [] ∨
        (∀ answer, taken ≠ [⟨.begin, answer⟩]) ∧ Closes result undone) := by
  rcases path.next with ⟨answer, value, later, rfl, hbegun, hpath⟩ |
    ⟨answer, error, rfl, hfailed, rfl, _, hundone⟩
  · rcases hpath.next with ⟨answer', templates, rest, rfl, hlisted, hrest⟩ |
      ⟨answer', error, rfl, hfailed, rfl, hcloses, _⟩
    · obtain ⟨outcome, hbody, rfl, hcloses⟩ := hrest.body
      have hsame : outcome.map (fun grants => [] ++ grants) = outcome := by
        cases outcome <;> rfl
      rw [hsame] at hcloses ⊢
      exact ⟨.listed hbegun hlisted hbody, Or.inr ⟨by simp, hcloses⟩⟩
    · exact ⟨.unlisted hbegun hfailed, Or.inr ⟨by simp, hcloses (by decide)⟩⟩
  · exact ⟨.unopened hfailed, Or.inl ⟨⟨answer, rfl⟩, hundone rfl⟩⟩

end Paths

section Ends

variable {order} {template : Template} {templates : List Template} {taken before : List Taken}
  {grant : Grant} {grants : List Grant} {error : StorageError}
  {result : Except StorageError (List Grant)}

/-- Steps before the commit that all succeeded. -/
def Passed (taken : List Taken) : Prop :=
  ∀ each ∈ taken, each.step ≠ .commit ∧ order.Succeeds each

/-- What the last step comes to: it failed, or it was the commit and succeeded. -/
def Decisive (last : Taken) : Except StorageError (List Grant) → Prop
  | .error error => order.Fails last error
  | .ok _ => last.step = .commit ∧ order.Succeeds last

def EndsWith (taken : List Taken) (result : Except StorageError (List Grant)) : Prop :=
  ∃ before last, taken = before ++ [last] ∧ order.Passed before ∧ order.Decisive last result

theorem passed_nil : order.Passed [] := fun _ h => absurd h List.not_mem_nil

theorem passed_append {first later : List Taken} (h : order.Passed first)
    (h' : order.Passed later) : order.Passed (first ++ later) :=
  List.forall_mem_append.mpr ⟨h, h'⟩

theorem passed_cons {step : Step} {answer : Answer} {value : step.Result} (between : step ≠ .commit)
    (read : order.read step answer = .ok value) (later : order.Passed taken) :
    order.Passed (⟨step, answer⟩ :: taken) :=
  List.forall_mem_cons.mpr ⟨⟨between, value, read⟩, later⟩

theorem EndsWith.after (h : order.EndsWith taken result) (passed : order.Passed before) :
    order.EndsWith (before ++ taken) result := by
  obtain ⟨first, last, rfl, hfirst, hlast⟩ := h
  exact ⟨before ++ first, last, (List.append_assoc _ _ _).symm, passed_append passed hfirst, hlast⟩

theorem endsWith_failure {step : Step} {answer : Answer}
    (failed : order.read step answer = .error error) :
    order.EndsWith [⟨step, answer⟩] (.error error) :=
  ⟨[], ⟨step, answer⟩, rfl, passed_nil, failed⟩

theorem Obtained.passed (h : order.Obtained template taken grant) : order.Passed taken := by
  cases h with
  | reused found => exact passed_cons (by simp) found passed_nil
  | stored missing stored =>
      exact passed_cons (by simp) missing (passed_cons (by simp) stored passed_nil)

theorem Rounds.passed (h : order.Rounds templates taken grants) : order.Passed taken := by
  induction h with
  | none => exact passed_nil
  | round obtained linked _ ih =>
      exact passed_append obtained.passed (passed_cons (by simp) linked ih)

theorem Broken.ends (h : order.Broken template taken error) :
    order.EndsWith taken (.error error) := by
  cases h with
  | search failed => exact endsWith_failure failed
  | store missing failed =>
      exact (endsWith_failure failed).after (passed_cons (by simp) missing passed_nil)
  | link obtained failed => exact (endsWith_failure failed).after obtained.passed

theorem Body.ends (h : order.Body templates taken result) : order.EndsWith taken result := by
  cases h with
  | broken _ rounds round => exact round.ends.after rounds.passed
  | unfinished rounds failed => exact (endsWith_failure failed).after rounds.passed
  | finished rounds committed => exact ⟨_, _, rfl, rounds.passed, rfl, (), committed⟩

theorem Course.ends (h : order.Course taken result) : order.EndsWith taken result := by
  cases h with
  | unopened failed => exact endsWith_failure failed
  | unlisted begun failed =>
      exact (endsWith_failure failed).after (passed_cons (by simp) begun passed_nil)
  | listed begun listed body =>
      have hpassed := passed_cons (by simp) begun (passed_cons (by simp) listed passed_nil)
      exact body.ends.after hpassed

end Ends

section Errors

variable {step : Step} {answer : Answer} {what name : String}

/-- The states with which the server refuses to insert a row, and what is said of
the row then: it is there already, or what it refers to is missing. -/
inductive Reports : String → (String → StorageError) → Prop where
  | duplicate : Reports DatabaseError.uniqueViolation .duplicate
  | notFound : Reports DatabaseError.foreignKeyViolation .notFound

variable {state : String} {report : String → StorageError}

theorem Reports.ne_internal (h : Reports state report) (name reason : String) :
    report name ≠ .internal reason := by
  cases h with
  | duplicate => exact StorageError.noConfusion
  | notFound => exact StorageError.noConfusion

theorem ofInsertion_eq_iff (reports : Reports state report) {error : DatabaseError} :
    StorageError.ofInsertion what error = report name ↔
      what = name ∧ ∃ text, error = .rejected state text := by
  have hother : DatabaseError.foreignKeyViolation ≠ DatabaseError.uniqueViolation := by decide
  cases error with
  | rejected given text =>
      simp only [StorageError.ofInsertion]
      split
      · next hunique => cases reports <;> simp [hunique, hother.symm]
      · next hunique =>
          split
          · next hforeign => cases reports <;> simp [hforeign, hother]
          · next hforeign =>
              cases reports <;> simp [StorageError.ofDatabase, hunique, hforeign]
  | _ => cases reports <;> simp [StorageError.ofInsertion, StorageError.ofDatabase]

/-- A row that cannot be read is no refusal of the server. -/
theorem cell_ne_rejected {row : Row} {index : Nat} {expected : Expected} {state text : String} :
    row.cell index expected ≠ .error (.rejected state text) := by
  unfold Row.cell
  split
  · simp
  · split
    · split <;> simp
    · split <;> simp

theorem decode_ne_rejected {reply : Reply} {state text : String}
    (inserted : order.inserted? step = some what) :
    order.decode step reply ≠ .error (.rejected state text) := by
  cases step with
  | store template =>
      obtain ⟨rows, affected⟩ := reply
      cases rows with
      | nil => simp [decode, Reply.first]
      | cons row rest =>
          have hcell : Row.cell row 0 ⟨.bigint, false⟩ ≠ .error (.rejected state text) :=
            cell_ne_rejected
          change order.grantOfRow template row ≠ _
          simp only [grantOfRow, rowId, Row.int]
          cases hread : Row.cell row 0 ⟨.bigint, false⟩ with
          | error error =>
              rw [hread] at hcell
              simpa [Except.map, bind, Except.bind] using hcell
          | ok value => simp [Except.map, bind, Except.bind, pure, Except.pure]
  | link grant => simp [decode]
  | _ => cases inserted

/-- Only the refusal of an insertion is read as something else than internal. -/
theorem read_eq_refusal_iff {error : StorageError} (known : ∀ reason, error ≠ .internal reason) :
    order.read step answer = .error error ↔
      ∃ what refusal, order.inserted? step = some what ∧ answer = .error refusal ∧
        StorageError.ofInsertion what refusal = error := by
  cases hinserted : order.inserted? step with
  | none =>
      simp only [read, wrap, hinserted]
      cases answer.bind (order.decode step) with
      | error refusal => simpa [Except.mapError, StorageError.ofDatabase] using (known _).symm
      | ok value => simp [Except.mapError]
  | some what =>
      cases answer with
      | error refusal => simp [read, wrap, hinserted, Except.bind, Except.mapError]
      | ok reply =>
          simp only [read, wrap, hinserted, Except.bind]
          cases hdecode : order.decode step reply with
          | ok value => simp [Except.mapError]
          | error unread =>
              have hinternal : StorageError.ofInsertion what unread = .ofDatabase unread := by
                cases unread with
                | rejected state text =>
                    exact absurd hdecode (decode_ne_rejected order hinserted)
                | _ => rfl
              simpa [Except.mapError, hinternal, StorageError.ofDatabase] using (known _).symm

/-- What is there already is reported for an insertion, and what is missing too. -/
theorem read_eq_report_iff (reports : Reports state report) :
    order.read step answer = .error (report name) ↔
      order.inserted? step = some name ∧ ∃ text, answer = .error (.rejected state text) := by
  rw [read_eq_refusal_iff order (reports.ne_internal name)]
  simp only [ofInsertion_eq_iff reports]
  constructor
  · rintro ⟨_, _, hinserted, rfl, rfl, text, rfl⟩
    exact ⟨hinserted, text, rfl⟩
  · rintro ⟨hinserted, text, rfl⟩
    exact ⟨name, _, hinserted, rfl, rfl, text, rfl⟩

end Errors

section Values

variable {order} {template : Template} {templates : List Template} {answer : Answer} {grant : Grant}
  {grants : List Grant} {taken : List Taken} {result : Except StorageError (List Grant)}

theorem read_eq_ok_iff {step : Step} {value : step.Result} :
    order.read step answer = .ok value ↔
      ∃ reply, answer = .ok reply ∧ order.decode step reply = .ok value := by
  cases answer with
  | error error => simp [read, Except.bind, Except.mapError]
  | ok reply =>
      simp only [read, Except.bind, Except.ok.injEq, exists_eq_left']
      cases order.decode step reply with
      | error error => simp [Except.mapError]
      | ok value => simp [Except.mapError]

theorem grantOfRow_eq_ok {row : Row} (h : order.grantOfRow template row = .ok grant) :
    grant = Grant.ofTemplate grant.id template order.scope := by
  unfold grantOfRow at h
  cases hid : rowId .grant row 0 with
  | error error =>
      rw [hid] at h
      cases h
  | ok id =>
      rw [hid] at h
      cases h
      rfl

/-- Whether it was there or is stored, the grant is the template's for the instance. -/
theorem Obtained.ofTemplate (h : order.Obtained template taken grant) :
    grant = Grant.ofTemplate grant.id template order.scope := by
  cases h with
  | reused found =>
      obtain ⟨⟨rows, affected⟩, _, hdecode⟩ := read_eq_ok_iff.mp found
      cases rows with
      | nil => cases hdecode
      | cons row rest =>
          change (order.grantOfRow template row).map some = .ok (some grant) at hdecode
          cases hrow : order.grantOfRow template row with
          | error error =>
              rw [hrow] at hdecode
              cases hdecode
          | ok given =>
              rw [hrow] at hdecode
              cases hdecode
              exact grantOfRow_eq_ok hrow
  | stored _ stored =>
      obtain ⟨⟨rows, affected⟩, _, hdecode⟩ := read_eq_ok_iff.mp stored
      cases rows with
      | nil => cases hdecode
      | cons row rest => exact grantOfRow_eq_ok hdecode

theorem Rounds.instantiate (h : order.Rounds templates taken grants) :
    List.Forall₂ (fun template grant => grant = Grant.ofTemplate grant.id template order.scope)
      templates grants := by
  induction h with
  | none => exact .nil
  | round obtained _ _ ih => exact .cons obtained.ofTemplate ih

/-- The grants of a course that succeeds: one for each of the templates of the
listing, in their order. -/
theorem Course.instantiates (h : order.Course taken (.ok grants)) :
    ∃ reply templates, ⟨.list, .ok reply⟩ ∈ taken ∧ reply.all templateOfRow = .ok templates ∧
      List.Forall₂ (fun template grant => grant = Grant.ofTemplate grant.id template order.scope)
        templates grants := by
  cases h with
  | listed _ listed body =>
      obtain ⟨reply, rfl, hall⟩ := read_eq_ok_iff.mp listed
      cases body with
      | finished rounds _ => exact ⟨reply, _, by simp, hall, rounds.instantiate⟩

end Values

/-- What a provisioning sends and answers, for the steps that it takes and for
what it sends after them. -/
structure Conducted (taken : List Taken) (undone : List (Exchange Command.Answer))
    (result : Except StorageError (List Grant)) : Prop where
  course : order.Course taken result
  /-- The commit is sent exactly if every other step succeeded. -/
  committed : (∃ answer, ⟨.commit, answer⟩ ∈ taken) ↔
    ∀ each ∈ taken, each.step ≠ .commit → order.Succeeds each
  /-- No step is taken after one that failed. -/
  stopped : ∀ before each later, taken = before ++ each :: later → ¬ order.Succeeds each →
    later = []
  /-- A transaction that has begun is undone exactly if it failed. -/
  closed : (∃ answer, taken = [⟨.begin, answer⟩]) ∧ undone = [] ∨
    (∀ answer, taken ≠ [⟨.begin, answer⟩]) ∧ Closes result undone
  succeeded : (∃ grants, result = .ok grants) ↔ ∃ reply, ⟨.commit, .ok reply⟩ ∈ taken
  instantiated : ∀ grants, result = .ok grants → ∃ reply templates, ⟨.list, .ok reply⟩ ∈ taken ∧
    reply.all templateOfRow = .ok templates ∧
      List.Forall₂ (fun template grant =>
        grant = ⟨grant.id, template.id, template.subject, template.action, .composite order.id⟩)
        templates grants
  /-- The error is that of the step that failed. -/
  failed : ∀ error, result = .error error ↔ ∃ each ∈ taken, order.Fails each error
  duplicate : ∀ what, result = .error (.duplicate what) ↔ ∃ each ∈ taken,
    order.inserted? each.step = some what ∧
      ∃ text, each.answer = .error (.rejected DatabaseError.uniqueViolation text)
  notFound : ∀ what, result = .error (.notFound what) ↔ ∃ each ∈ taken,
    order.inserted? each.step = some what ∧
      ∃ text, each.answer = .error (.rejected DatabaseError.foreignKeyViolation text)

section Conduct

variable {order} {taken before : List Taken} {each last : Taken}
  {undone : List (Exchange Command.Answer)} {error : StorageError}
  {result : Except StorageError (List Grant)}

theorem Fails.not_succeeds (h : order.Fails each error) : ¬ order.Succeeds each := by
  rintro ⟨value, hread⟩
  rw [Fails, hread] at h
  cases h

theorem Decisive.failed_iff (h : order.Decisive last result) :
    result = .error error ↔ order.Fails last error := by
  cases result with
  | error own =>
      have hown : order.read last.step last.answer = .error own := h
      rw [Fails, hown, Except.error.injEq, Except.error.injEq]
  | ok grants => simpa using fun hfails : order.Fails last error => hfails.not_succeeds h.2

theorem Decisive.step_eq_commit_iff (h : order.Decisive last result) :
    last.step = .commit ↔ (last.step ≠ .commit → order.Succeeds last) := by
  constructor
  · exact fun hcommit hother => absurd hcommit hother
  · intro hsucceeds
    by_contra hother
    cases result with
    | error error => exact Fails.not_succeeds h (hsucceeds hother)
    | ok grants => exact hother h.1

theorem Decisive.succeeded_iff (h : order.Decisive last result) :
    (∃ grants, result = .ok grants) ↔ ∃ reply, last = ⟨.commit, .ok reply⟩ := by
  obtain ⟨step, answer⟩ := last
  cases result with
  | error error =>
      simp only [reduceCtorEq, exists_false, false_iff]
      rintro ⟨reply, heq⟩
      cases heq
      cases h
  | ok grants =>
      obtain ⟨rfl, value, hread⟩ := h
      obtain ⟨reply, hreply, _⟩ := read_eq_ok_iff.mp hread
      simpa using ⟨reply, hreply⟩

theorem Passed.mem_iff (passed : order.Passed before) {P : Taken → Prop}
    (h : ∀ each, P each → each.step = .commit ∨ ¬ order.Succeeds each) :
    (∃ each ∈ before ++ [last], P each) ↔ P last := by
  simp only [List.mem_append, List.mem_singleton]
  constructor
  · rintro ⟨each, hold | rfl, hP⟩
    · obtain ⟨hother, hsucceeds⟩ := passed each hold
      rcases h each hP with hcommit | hfails
      · exact absurd hcommit hother
      · exact absurd hsucceeds hfails
    · exact hP
  · exact fun hP => ⟨last, Or.inr rfl, hP⟩

theorem exists_commit_iff : (∃ answer, (⟨.commit, answer⟩ : Taken) ∈ taken) ↔
    ∃ each ∈ taken, each.step = .commit := by
  constructor
  · rintro ⟨answer, hmem⟩
    exact ⟨_, hmem, rfl⟩
  · rintro ⟨⟨_, answer⟩, hmem, rfl⟩
    exact ⟨answer, hmem⟩

theorem EndsWith.failed_iff (h : order.EndsWith taken result) :
    result = .error error ↔ ∃ each ∈ taken, order.Fails each error := by
  obtain ⟨before, last, rfl, hpassed, hdecisive⟩ := h
  rw [hpassed.mem_iff fun each hfails => Or.inr (Fails.not_succeeds hfails), hdecisive.failed_iff]

theorem EndsWith.committed_iff (h : order.EndsWith taken result) :
    (∃ answer, ⟨.commit, answer⟩ ∈ taken) ↔
      ∀ each ∈ taken, each.step ≠ .commit → order.Succeeds each := by
  obtain ⟨before, last, rfl, hpassed, hdecisive⟩ := h
  rw [exists_commit_iff, hpassed.mem_iff fun each hcommit => Or.inl hcommit,
    hdecisive.step_eq_commit_iff]
  simp only [List.mem_append, List.mem_singleton]
  constructor
  · rintro hlast each (hold | rfl) hother
    · exact (hpassed each hold).2
    · exact hlast hother
  · exact fun hall => hall last (Or.inr rfl)

theorem EndsWith.succeeded_iff (h : order.EndsWith taken result) :
    (∃ grants, result = .ok grants) ↔ ∃ reply, ⟨.commit, .ok reply⟩ ∈ taken := by
  obtain ⟨before, last, rfl, hpassed, hdecisive⟩ := h
  have hlast : (∃ each ∈ before ++ [last], ∃ reply, each = ⟨.commit, .ok reply⟩) ↔
      ∃ reply, last = ⟨.commit, .ok reply⟩ := by
    apply hpassed.mem_iff
    rintro _ ⟨reply, rfl⟩
    exact Or.inl rfl
  rw [hdecisive.succeeded_iff, ← hlast]
  constructor
  · rintro ⟨_, hmem, reply, rfl⟩
    exact ⟨reply, hmem⟩
  · rintro ⟨reply, hmem⟩
    exact ⟨_, hmem, reply, rfl⟩

theorem EndsWith.stopped (h : order.EndsWith taken result) {later : List Taken}
    (split : taken = before ++ each :: later) (failed : ¬ order.Succeeds each) : later = [] := by
  obtain ⟨first, last, rfl, hpassed, _⟩ := h
  rcases List.eq_nil_or_concat later with hnil | ⟨between, final, rfl⟩
  · exact hnil
  · rw [List.concat_eq_append, ← List.cons_append, ← List.append_assoc] at split
    obtain ⟨rfl, _⟩ := List.append_inj' split rfl
    exact absurd (hpassed each (by simp)).2 failed

theorem Course.conducted (course : order.Course taken result)
    (closed : (∃ answer, taken = [⟨.begin, answer⟩]) ∧ undone = [] ∨
      (∀ answer, taken ≠ [⟨.begin, answer⟩]) ∧ Closes result undone) :
    order.Conducted taken undone result where
  course := course
  committed := course.ends.committed_iff
  stopped := fun _ _ _ split failed => course.ends.stopped split failed
  closed := closed
  succeeded := course.ends.succeeded_iff
  instantiated := by
    rintro grants rfl
    exact course.instantiates
  failed := fun _ => course.ends.failed_iff
  duplicate := by
    intro what
    simp only [course.ends.failed_iff, Fails, read_eq_report_iff order .duplicate]
  notFound := by
    intro what
    simp only [course.ends.failed_iff, Fails, read_eq_report_iff order .notFound]

end Conduct

/-- Whatever the database answers, a provisioning sends the steps of a course and
nothing else, but for the rollback of a transaction that has begun and failed. -/
theorem provisioning_is_one_transaction {σ : Type}
    (partner : (command : Command) → σ → command.Answer × σ) (state : σ) (kind : InstanceKind)
    (id : InstanceId) (owner : ActorId) :
    ∃ taken undone,
      (write (.provisionDefaults kind id owner)).run.exchanges partner state =
          taken.map (exchange ⟨kind, id, owner⟩) ++ undone ∧
        Conducted ⟨kind, id, owner⟩ taken undone
          ((write (.provisionDefaults kind id owner)).run.run partner state).result := by
  have htalk := write_provisionDefaults ⟨kind, id, owner⟩
  simp only at htalk
  rw [htalk]
  obtain ⟨taken, undone, hsent, hpath⟩ := exists_path partner (.asking .begin [] []) state
  obtain ⟨hcourse, hclosed⟩ := hpath.course
  exact ⟨taken, undone, hsent, hcourse.conducted hclosed⟩

/-- A database that answers what is written down for it, and then nothing. -/
def scripted (_ : Command) : List Answer → Answer × List Answer
  | [] => (.error (.unreachable "silent"), [])
  | answer :: rest => (answer, rest)

/-- The grant is not found, so it is stored, linked to the owner and committed. -/
theorem missing_grant_stored_and_committed :
    let call := (write (.provisionDefaults .perspective ⟨9, 1⟩ ⟨1⟩)).run
    let answers : List Answer :=
      [.ok ⟨[], 0⟩,
        .ok ⟨[[.int 2, .text "perspective", .text "edit", .bool false, .bool true]], 1⟩,
        .ok ⟨[], 0⟩, .ok ⟨[[.int 7]], 1⟩, .ok ⟨[], 1⟩, .ok ⟨[], 0⟩]
    let grants : List Grant := [⟨⟨7⟩, ⟨2⟩, "perspective", "edit", .composite ⟨9, 1⟩⟩]
    (call.exchanges scripted answers).map (fun sent =>
        (sent.question.statement.text, sent.question.parameters)) =
      [("BEGIN", []),
        ("SELECT id, subject, action, dictionary_default, perspective_default " ++
          "FROM permission_templates WHERE perspective_default ORDER BY id", []),
        ("SELECT id FROM permission_grants WHERE template_id = $1 AND is_override = $2 " ++
          "AND subject_client_id IS NOT DISTINCT FROM $3 " ++
          "AND subject_object_id IS NOT DISTINCT FROM $4", [.int 2, .bool false, .int 9, .int 1]),
        ("INSERT INTO permission_grants " ++
          "(template_id, is_override, subject_client_id, subject_object_id) " ++
          "VALUES ($1, $2, $3, $4) RETURNING id", [.int 2, .bool false, .int 9, .int 1]),
        ("INSERT INTO actor_grants (actor_id, grant_id) VALUES ($1, $2) ON CONFLICT DO NOTHING",
          [.int 1, .int 7]),
        ("COMMIT", [])] ∧
      ∃ taken undone,
        call.exchanges scripted answers =
            taken.map (exchange ⟨.perspective, ⟨9, 1⟩, ⟨1⟩⟩) ++ undone ∧
          Conducted ⟨.perspective, ⟨9, 1⟩, ⟨1⟩⟩ taken undone (.ok grants) := by
  intro call answers grants
  obtain ⟨taken, undone, hsent, hconducted⟩ :=
    provisioning_is_one_transaction scripted answers .perspective ⟨9, 1⟩ ⟨1⟩
  have hresult : (call.run scripted answers).result = .ok grants := rfl
  rw [hresult] at hconducted
  exact ⟨rfl, taken, undone, hsent, hconducted⟩

/-- The grant is not found, and then it is there: five statements and a rollback. -/
example :
    let call := (write (.provisionDefaults .perspective ⟨9, 1⟩ ⟨1⟩)).run
    let answers : List Answer :=
      [.ok ⟨[], 0⟩,
        .ok ⟨[[.int 2, .text "perspective", .text "edit", .bool false, .bool true]], 1⟩,
        .ok ⟨[], 0⟩, .error (.rejected DatabaseError.uniqueViolation "duplicate key"), .ok ⟨[], 0⟩]
    (call.run scripted answers).result = .error (.duplicate "grant of template 2") ∧
      (call.exchanges scripted answers).map (fun sent => sent.question.statement) =
        [.beginTransaction, defaultTemplates .perspective, grantByScope, insertGrant,
          .rollBack] := by
  exact ⟨rfl, rfl⟩

end AccessGrants.Database.Provisioning
