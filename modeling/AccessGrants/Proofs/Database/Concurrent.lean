import AccessGrants.Proofs.Database.Contention

/-!
Two provisionings of one instance at the same time. The calls always come to
their end, and mostly with the same grants, since each finds what the other one
has committed. But the search and the insertion are two statements: when both
calls have searched in vain for one grant, one of them stores it and the other
one runs into it, and returns an error instead of the grant that is there.
-/

namespace AccessGrants.Database

open Sql Provisioning

/-- Two calls that run side by side. -/
inductive Caller where
  | first
  | second
  deriving DecidableEq, Repr

/-- What comes of two calls that provision one instance: they return the same
grants, unless they have both searched in vain for the grant of one template. Of
these one call stores the grant, and the other one is refused it. -/
structure Settled (id : InstanceId)
    (system : System Caller (Except StorageError (List Grant))) : Prop where
  reused : (∀ template, ¬ ∀ caller, InVain id (system.said caller) template) →
    ∃ grants, ∀ caller, system.program caller = .done (.ok grants)
  refused : ∀ template, (∀ caller, InVain id (system.said caller) template) →
    ∃ winner loser grants, system.program winner = .done (.ok grants) ∧
      system.program loser = .done (.error (.duplicate ("grant of " ++ template.label)))

namespace Overlap

section Agreement

variable {Party : Type} {overlap : Overlap Party} {place : Party → Stage} {server : Server Party}
  {system : System Party (Except StorageError (List Grant))}

/-- One grant only is the template's for the instance. -/
theorem Gets.unique (serves : overlap.Serves server) {template : Template} {first second : Grant}
    (h : overlap.Gets server.committed template first)
    (h' : overlap.Gets server.committed template second) : first = second := by
  obtain ⟨record, hrecord, hfills, hid⟩ := h.filled
  obtain ⟨record', hrecord', hfills', hid'⟩ := h'.filled
  have hsame : record = record' :=
    serves.sound.distinct _ _ _ (Or.inl hrecord) (Or.inl hrecord') (hfills.collide hfills')
  rw [hsame, hid', Value.int.injEq] at hid
  rw [h.ofTemplate, h'.ofTemplate, RowId.value_inj.mp hid]

theorem Holds.grants_eq (holds : overlap.Holds system place) {first second : Party}
    {grants grants' : List Grant} (h : place first = .ended (.ok grants))
    (h' : place second = .ended (.ok grants')) : grants = grants' := by
  have hgot := (h ▸ (holds.fares first).stands).committed
  have hgot' := (h' ▸ (holds.fares second).stands).committed
  have hunique : Relator.RightUnique (overlap.Gets system.server.committed) :=
    fun _ _ _ => Gets.unique holds.serves
  exact hunique.forall₂ hgot hgot'

end Agreement

section Settling

variable {overlap : Overlap Caller} {place : Caller → Stage}
  {system : System Caller (Except StorageError (List Grant))}

/-- How many statements two calls may take together. -/
def total (overlap : Overlap Caller) (place : Caller → Stage) : Nat :=
  overlap.budget (place .first) + overlap.budget (place .second)

theorem total_update {caller : Caller} {stage : Stage}
    (h : overlap.budget stage < overlap.budget (place caller)) :
    overlap.total (Function.update place caller stage) < overlap.total place := by
  cases caller with
  | first => simpa [total] using h
  | second => simpa [total] using h

theorem Holds.runs (founded : overlap.Founded) {start : System Caller _} {begun : Caller → Stage}
    (holds : overlap.Holds start begun) {n : Nat}
    (run : System.Runs Schema.definitions start n system) :
    ∃ place, overlap.Holds system place ∧ n + overlap.total place ≤ overlap.total begun := by
  induction run with
  | none => exact ⟨begun, holds, by omega⟩
  | step run step ih =>
      obtain ⟨place, hholds, hbound⟩ := ih
      obtain ⟨caller, stage, hnext, hbudget⟩ := hholds.step founded step
      have htotal := total_update hbudget
      exact ⟨_, hnext, by omega⟩

/-- Of two calls that are not one, each call is one. -/
theorem Caller.eq_or_eq {caller other : Caller} (hne : caller ≠ other) (third : Caller) :
    third = caller ∨ third = other := by
  cases caller <;> cases other <;> cases third <;> simp_all

theorem Stands.ended {server : Server Caller} {caller : Caller} {stage : Stage}
    (stands : overlap.Stands server caller stage) (ended : overlap.budget stage = 0) :
    stage.Won ∨ ∃ error, stage = .ended (.error error) := by
  cases stands with
  | succeeded => exact Or.inl ⟨_, rfl⟩
  | refused => exact Or.inr ⟨_, rfl⟩
  | _ => simp at ended

theorem Holds.program_of_ended (holds : overlap.Holds system place) {caller : Caller}
    {result : Except StorageError (List Grant)} (h : place caller = .ended result) :
    system.program caller = .done result := by
  rw [holds.program, h, talk]

theorem Holds.done (holds : overlap.Holds system place) {caller : Caller}
    (ended : overlap.budget (place caller) = 0) :
    ∃ result, system.program caller = .done result := by
  rcases (holds.fares caller).stands.ended ended with ⟨grants, hwon⟩ | ⟨error, hrefused⟩
  · exact ⟨_, holds.program_of_ended hwon⟩
  · exact ⟨_, holds.program_of_ended hrefused⟩

/-- A call that is over without its grants has lost one of them to the other
call, which has also searched for it in vain. -/
theorem Holds.lost (holds : overlap.Holds system place) {caller : Caller} {error : StorageError}
    (stopped : place caller = .ended (.error error)) :
    ∃ template : TemplateId, error = .duplicate ("grant of " ++ template.label) ∧
      (∀ id, InVain overlap.id (system.said caller) id ↔ id = template) ∧
        ∃ other, other ≠ caller ∧ (place other).Won ∧
          InVain overlap.id (system.said other) template := by
  obtain ⟨template, herror, hvain, other, hother, hvain'⟩ :=
    holds.beaten caller error (Or.inr stopped)
  refine ⟨template, herror, hvain, other, ?_, hother, hvain'⟩
  rintro rfl
  obtain ⟨grants, hgrants⟩ := hother
  rw [stopped] at hgrants
  cases hgrants

theorem Holds.reused (holds : overlap.Holds system place)
    (ended : ∀ caller, overlap.budget (place caller) = 0)
    (found : ∀ template, ¬ ∀ caller, InVain overlap.id (system.said caller) template) :
    ∃ grants, ∀ caller, system.program caller = .done (.ok grants) := by
  have hwon (caller : Caller) : (place caller).Won := by
    refine ((holds.fares caller).stands.ended (ended caller)).resolve_right ?_
    rintro ⟨error, herror⟩
    obtain ⟨template, _, hvain, other, hne, _, hvain'⟩ := holds.lost herror
    refine found template fun third => ?_
    rcases Caller.eq_or_eq hne third with rfl | rfl
    · exact hvain'
    · exact (hvain template).mpr rfl
  obtain ⟨grants, hfirst⟩ := hwon .first
  refine ⟨grants, fun caller => ?_⟩
  obtain ⟨own, hown⟩ := hwon caller
  rw [holds.grants_eq hfirst hown]
  exact holds.program_of_ended hown

theorem Holds.refused (holds : overlap.Holds system place)
    (ended : ∀ caller, overlap.budget (place caller) = 0) {template : TemplateId}
    (vain : ∀ caller, InVain overlap.id (system.said caller) template) :
    ∃ winner loser grants, system.program winner = .done (.ok grants) ∧
      system.program loser = .done (.error (.duplicate ("grant of " ++ template.label))) := by
  -- two calls that both get their grants cannot both have missed one
  obtain ⟨loser, error, herror⟩ : ∃ loser error, place loser = .ended (.error error) := by
    by_contra! hnone
    have hwon (caller : Caller) : (place caller).Won :=
      ((holds.fares caller).stands.ended (ended caller)).resolve_right
        fun ⟨error, herror⟩ => hnone caller error herror
    exact holds.single .first .second (by decide) (hwon _) (hwon _) _ _ (vain _) (vain _)
  obtain ⟨own, rfl, hunique, winner, _, ⟨grants, hgrants⟩, _⟩ := holds.lost herror
  obtain rfl := (hunique template).mp (vain loser)
  exact ⟨winner, loser, grants, holds.program_of_ended hgrants, holds.program_of_ended herror⟩

theorem Holds.settled (holds : overlap.Holds system place)
    (ended : ∀ caller, overlap.budget (place caller) = 0) : Settled overlap.id system where
  reused := holds.reused ended
  refused := fun _ => holds.refused ended

/-- The calls can go on until both have come to their end. -/
theorem Holds.exists_ended (founded : overlap.Founded) (holds : overlap.Holds system place)
    (room : (overlap.tables "permission_grants").length + overlap.templates.length < 2 ^ 63 - 1)
    {start : System Caller (Except StorageError (List Grant))} {n : Nat}
    (run : System.Runs Schema.definitions start n system) :
    ∃ m final last, System.Runs Schema.definitions start m final ∧ overlap.Holds final last ∧
      (∀ caller, overlap.budget (last caller) = 0) ∧
        ∀ caller, system.said caller <+: final.said caller := by
  induction hplace : overlap.total place using Nat.strong_induction_on
    generalizing system place n with
  | _ total ih =>
  by_cases hended : ∀ caller, overlap.budget (place caller) = 0
  · exact ⟨n, system, place, run, holds, hended, fun _ => List.prefix_refl _⟩
  · push Not at hended
    obtain ⟨goer, hgoes⟩ := hended
    obtain ⟨next, hstep⟩ := holds.exists_step founded room (Nat.pos_of_ne_zero hgoes)
    obtain ⟨mover, stage, hnext, hbudget⟩ := holds.step founded hstep
    have hless := total_update hbudget
    obtain ⟨m, final, last, hrun, hfinal, hover, hsaid⟩ :=
      ih _ (hplace ▸ hless) hnext (run.step hstep) rfl
    refine ⟨m, final, last, hrun, hfinal, hover, fun caller => ?_⟩
    exact (hstep.said_prefix caller).trans (hsaid caller)

end Settling

section Searching

variable {Party : Type} [DecidableEq Party] {overlap : Overlap Party} {party : Party}
  {server : Server Party} {place : Party → Stage}
  {said : Party → List (Exchange Command.Answer)} {template : Template} {left : List Template}

/-- The calls at these stages. -/
def staged (overlap : Overlap Party) (server : Server Party) (place : Party → Stage)
    (said : Party → List (Exchange Command.Answer)) :
    System Party (Except StorageError (List Grant)) :=
  ⟨server, fun party => (overlap.order party).talk (place party), said⟩

/-- A call that has its next statement executed goes on to the stage that follows. -/
theorem runs_staged {start : System Party (Except StorageError (List Grant))} {n : Nat}
    {step : Step} {done : List Grant} {answer : Answer} {after : Server Party} {stage : Stage}
    (run : System.Runs Schema.definitions start n (overlap.staged server place said))
    (asking : place party = .asking step done left)
    (executes : Executes Schema.definitions server party ((overlap.order party).command step)
      answer after)
    (advances : (overlap.order party).advance step done left answer = stage) :
    System.Runs Schema.definitions start (n + 1)
      (overlap.staged after (Function.update place party stage)
        (Function.update said party
          (said party ++ [⟨(overlap.order party).command step, answer⟩]))) := by
  have hasks : (overlap.staged server place said).program party =
      .ask ((overlap.order party).command step) fun answer =>
        (overlap.order party).talk ((overlap.order party).advance step done left answer) := by
    change (overlap.order party).talk (place party) = _
    rw [asking, talk]
  have hstep := System.Step.asks hasks executes
  have hprogram :
      (fun other => (overlap.order other).talk (Function.update place party stage other)) =
        Function.update (fun other => (overlap.order other).talk (place other)) party
          ((overlap.order party).talk stage) :=
    funext fun other => Function.apply_update (fun other => (overlap.order other).talk) ..
  rw [advances] at hstep
  rw [staged, hprogram]
  exact run.step hstep

variable (party) in
/-- A call that has not begun may search for the grant of the first template,
and does so in vain if the grant is not committed. -/
theorem runs_search (founded : overlap.Founded) (listed : overlap.templates = template :: left)
    (missing : ∀ record ∈ overlap.tables "permission_grants", ¬ Fills overlap.id template record)
    {start : System Party (Except StorageError (List Grant))} {n : Nat}
    (run : System.Runs Schema.definitions start n (overlap.staged server place said))
    (fresh : server.committed = overlap.tables) (idle : server.standing party = .idle)
    (begun : place party = .asking .begin [] []) :
    ∃ heard, System.Runs Schema.definitions start (n + 3)
        (overlap.staged (server.become party (.active .empty))
          (Function.update place party (.asking (.store template) [] left))
          (Function.update said party heard)) ∧
      InVain overlap.id heard template.id := by
  have hactive : (server.become party (.active .empty)).standing party = .active .empty :=
    server.standing_become_self
  have hvisible : (server.become party (.active .empty)).visible party = overlap.tables := by
    funext table
    change server.committed table ++ (server.become party (.active .empty)).own party table = _
    rw [server.own_become_self, fresh]
    exact List.append_nil _
  have hlists := Select.yields_rows overlap.tables [] (listing overlap.kind)
  rw [founded.lists.read _ hlists, ← hvisible] at hlists
  have hread : (overlap.order party).read .list (.ok ⟨overlap.templates.map templateCells, 0⟩) =
      .ok overlap.templates :=
    read_eq_ok_iff.mpr ⟨_, rfl, mapM_templateOfRow overlap.templates⟩
  have hfinds := Select.yields_rows overlap.tables ((overlap.order party).key template) search
  have hnone : search.rows overlap.tables ((overlap.order party).key template) = [] := by
    rw [List.eq_nil_iff_forall_not_mem]
    intro row hrow
    obtain ⟨record, hrecord, hfills, _⟩ := (mem_search hfinds).mp hrow
    exact missing record hrecord hfills
  rw [hnone, ← hvisible] at hfinds
  have hlisted : (overlap.order party).advance .list [] []
      (.ok ⟨overlap.templates.map templateCells, 0⟩) = .asking (.find template) [] left := by
    rw [advance_of_ok _ hread, listed]
    rfl
  have hfirst := runs_staged run begun (.begin idle ⟨[], 0⟩) rfl
  have hsecond := runs_staged hfirst (Function.update_self ..) (.select hactive 0 hlists) hlisted
  have hthird := runs_staged hsecond (Function.update_self ..) (.select hactive 0 hfinds) rfl
  simp only [Function.update_idem, Function.update_self] at hthird
  refine ⟨_, hthird, 0, List.mem_append_right _ ?_⟩
  exact .head _

end Searching

section Refusal

variable {overlap : Overlap Caller} {template : Template} {left : List Template}

theorem start_eq_staged (overlap : Overlap Caller) :
    System.start overlap.tables (fun caller =>
        (write (.provisionDefaults overlap.kind overlap.id (overlap.owner caller))).run) =
      overlap.staged ⟨overlap.tables, fun _ => .idle⟩ (fun _ => .asking .begin [] [])
        fun _ => [] := by
  have hprogram := funext fun caller => write_provisionDefaults (overlap.order caller)
  exact congrArg (System.mk _ · _) hprogram

/-- Whenever the first default template has no grant for the instance, the calls
can run so that both come to their end and one of them is refused. -/
theorem exists_refusal (founded : overlap.Founded)
    (consistent : Consistent Schema.definitions overlap.tables)
    (clear : overlap.id.client = -1 → ∀ record ∈ overlap.tables "permission_grants",
      record "subject_client_id" = .null →
        record "subject_object_id" ≠ .int overlap.id.object)
    (room : (overlap.tables "permission_grants").length + overlap.templates.length < 2 ^ 63 - 1)
    (listed : overlap.templates = template :: left)
    (missing : ∀ record ∈ overlap.tables "permission_grants",
      ¬ Fills overlap.id template record) :
    ∃ (n : Nat) (system : System Caller (Except StorageError (List Grant))),
      System.Runs Schema.definitions
        (System.start overlap.tables fun caller =>
          (write (.provisionDefaults overlap.kind overlap.id (overlap.owner caller))).run)
        n system ∧
      (∀ caller, ∃ result, system.program caller = .done result) ∧
        ∃ loser, system.program loser =
          .done (.error (.duplicate ("grant of " ++ template.id.label))) := by
  have hstart := holds_start consistent clear
  rw [start_eq_staged] at hstart ⊢
  have hnone : System.Runs Schema.definitions _ 0 (overlap.staged ⟨overlap.tables, fun _ => .idle⟩
    (fun _ => .asking .begin [] []) fun _ => []) := .none
  obtain ⟨heard, hfirst, hvain⟩ := runs_search .first founded listed missing hnone rfl rfl rfl
  obtain ⟨heard', hboth, hvain'⟩ := runs_search .second founded listed missing hfirst rfl rfl rfl
  obtain ⟨place, hholds, _⟩ := hstart.runs founded hboth
  obtain ⟨m, final, last, hrun, hfinal, hended, hsaid⟩ := hholds.exists_ended founded room hboth
  have hall (caller : Caller) : InVain overlap.id (final.said caller) template.id := by
    refine InVain.of_prefix ?_ (hsaid caller)
    cases caller with
    | first => exact hvain
    | second => exact hvain'
  obtain ⟨_, loser, _, _, hloser⟩ := (hfinal.settled hended).refused template.id hall
  refine ⟨m, final, hrun, fun caller => ?_, loser, hloser⟩
  exact hfinal.done (hended caller)

end Refusal

end Overlap

/-- Two provisionings of one instance on a database that satisfies its
constraints, in any interleaving of their statements, come to their end: they
return the same grants, unless both have searched in vain for one grant before
the other one has committed it. The row that only seems to be in the slot of a
grant, with null for the client minus one, is left out. -/
theorem concurrent_provisionings_settle (tables : Tables) (kind : InstanceKind) (id : InstanceId)
    (owner : Caller → ActorId) (consistent : Consistent Schema.definitions tables)
    (owners : ∀ caller, ∃ row ∈ tables "actors", row "id" = .int (owner caller).value)
    (clear : id.client = -1 → ∀ row ∈ tables "permission_grants",
      row "subject_client_id" = .null → row "subject_object_id" ≠ .int id.object)
    (room : (tables "permission_grants").length + (tables "permission_templates").length <
      2 ^ 63 - 1) :
    ∃ bound, ∀ n system,
      System.Runs Schema.definitions
          (System.start tables fun caller =>
            (write (.provisionDefaults kind id (owner caller))).run)
          n system →
        n ≤ bound ∧
          ((∃ next, System.Step Schema.definitions system next) ∨ Settled id system) := by
  obtain ⟨templates, hlists⟩ := exists_lists consistent kind
  let overlap : Overlap Caller := ⟨kind, id, owner, tables, templates⟩
  have hfounded : overlap.Founded := ⟨hlists, owners⟩
  have hstart : overlap.Holds _ _ := Overlap.holds_start consistent clear
  have hroom : (tables "permission_grants").length + templates.length < 2 ^ 63 - 1 := by
    have hshort := hlists.short
    omega
  refine ⟨overlap.total fun _ => .asking .begin [] [], fun n system run => ?_⟩
  obtain ⟨place, hholds, hbound⟩ := hstart.runs hfounded run
  refine ⟨by omega, ?_⟩
  by_cases hended : ∀ caller, overlap.budget (place caller) = 0
  · exact Or.inr (hholds.settled hended)
  · push Not at hended
    obtain ⟨caller, hgoes⟩ := hended
    exact Or.inl (hholds.exists_step hfounded hroom (Nat.pos_of_ne_zero hgoes))

/-- A database with one actor and one default template, and no grants. -/
def sparse : Tables
  | "actors" =>
    [recordOf ["id", "active", "superuser", "created_at"]
      [.int 1, .bool true, .bool false, .text "2024-05-01"]]
  | "permission_templates" =>
    [recordOf ["id", "subject", "action", "dictionary_default", "perspective_default"]
      [.int 2, .text "perspective", .text "edit", .bool false, .bool true]]
  | _ => []

theorem mem_sparse {table : String} {record : Record} (h : record ∈ sparse table) :
    (table = "actors" ∨ table = "permission_templates") ∧
      Admits Schema.definitions table record := by
  unfold sparse at h
  split at h
  · rw [List.mem_singleton.mp h]
    exact ⟨Or.inl rfl, by decide⟩
  · rw [List.mem_singleton.mp h]
    exact ⟨Or.inr rfl, by decide⟩
  · cases h

theorem consistent_sparse : Consistent Schema.definitions sparse where
  admitted := fun _ _ h => (mem_sparse h).2
  distinct := by
    intro table
    unfold sparse
    split
    · exact List.pairwise_singleton ..
    · exact List.pairwise_singleton ..
    · exact .nil
  referred := by
    intro table record h
    apply refers_of_no_reference
    rcases (mem_sparse h).1 with rfl | rfl
    · decide
    · decide

/-- The two calls come to their end on the small database. -/
theorem sparse_provisionings_settle : Consistent Schema.definitions sparse ∧
    ∃ bound, ∀ n system,
      System.Runs Schema.definitions
          (System.start sparse fun _ : Caller =>
            (write (.provisionDefaults .perspective ⟨9, 1⟩ ⟨1⟩)).run)
          n system →
        n ≤ bound ∧
          ((∃ next, System.Step Schema.definitions system next) ∨ Settled ⟨9, 1⟩ system) :=
  ⟨consistent_sparse, concurrent_provisionings_settle sparse .perspective ⟨9, 1⟩ (fun _ => ⟨1⟩)
    consistent_sparse (fun _ => ⟨_, .head _, rfl⟩) (by decide) (by decide)⟩

/-- It is not so that both calls always return the same grants: on the small
database one of them may be refused the grant that the other one has stored. -/
theorem concurrent_provisionings_may_be_refused :
    ¬ ∀ (tables : Tables) (kind : InstanceKind) (id : InstanceId) (owner : Caller → ActorId),
      Consistent Schema.definitions tables →
      (∀ caller, ∃ row ∈ tables "actors", row "id" = .int (owner caller).value) →
      ∀ (n : Nat) (system : System Caller (Except StorageError (List Grant))),
        System.Runs Schema.definitions
            (System.start tables fun caller =>
              (write (.provisionDefaults kind id (owner caller))).run)
            n system →
          (∀ caller, ∃ result, system.program caller = .done result) →
            ∃ grants, ∀ caller, system.program caller = .done (.ok grants) := by
  intro promised
  have howners : ∀ _ : Caller, ∃ row ∈ sparse "actors", row "id" = .int 1 :=
    fun _ => ⟨_, .head _, rfl⟩
  obtain ⟨templates, hlists⟩ := exists_lists consistent_sparse .perspective
  obtain ⟨template, rfl⟩ : ∃ template, templates = [template] := by
    rw [← List.length_eq_one_iff, ← List.length_map templateCells,
      ← hlists.read _ (Select.yields_rows ..), Select.rows, List.length_map,
      List.length_mergeSort, entries_listing]
    rfl
  let overlap : Overlap Caller := ⟨.perspective, ⟨9, 1⟩, fun _ => ⟨1⟩, sparse, [template]⟩
  have hfounded : overlap.Founded := ⟨hlists, howners⟩
  have hclient : (9 : Int64) ≠ -1 := by decide
  have hroom : 0 + 1 < 2 ^ 63 - 1 := by decide
  obtain ⟨n, system, hrun, hdone, loser, hrefused⟩ := Overlap.exists_refusal hfounded
    consistent_sparse (fun h => absurd h hclient) hroom rfl (by rintro _ ⟨⟩)
  obtain ⟨grants, hgrants⟩ := promised sparse .perspective ⟨9, 1⟩ (fun _ => ⟨1⟩) consistent_sparse
    howners n system hrun hdone
  rw [hgrants loser] at hrefused
  cases hrefused

end AccessGrants.Database
