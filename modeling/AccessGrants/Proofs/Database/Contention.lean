import AccessGrants.Proofs.Database.Race
import AccessGrants.Proofs.Store.Provisioning

/-!
Calls that contend for one instance. A step of the system is a move of one call;
what holds of all of them before it holds after it. The first call that has
committed leaves the others nothing to store, so a call that has searched in vain
for a grant is beaten by it; and a call that waits does so for one that is
further on, so that they never wait for each other.
-/

namespace AccessGrants.Database

open Sql Provisioning

namespace Overlap

variable {Party : Type} {overlap : Overlap Party} {party other : Party}
  {place later : Party → Stage} {system next : System Party (Except StorageError (List Grant))}

/-- The error tells of the one grant that the call has searched for in vain, and
that another call has stored. -/
def Beaten (overlap : Overlap Party) (system : System Party (Except StorageError (List Grant)))
    (place : Party → Stage) (party : Party) (error : StorageError) : Prop :=
  ∃ template : TemplateId, error = .duplicate ("grant of " ++ template.label) ∧
    (∀ id, InVain overlap.id (system.said party) id ↔ id = template) ∧
      ∃ other, (place other).Won ∧ InVain overlap.id (system.said other) template

/-- The calls are at these stages, and fare accordingly. -/
structure Holds (overlap : Overlap Party) (system : System Party (Except StorageError (List Grant)))
    (place : Party → Stage) : Prop where
  program : ∀ party, system.program party = (overlap.order party).talk (place party)
  serves : overlap.Serves system.server
  fares : ∀ party, overlap.Fares system.server party (place party) (system.said party)
  /-- What is committed was there at first, or is of a call that has succeeded. -/
  committed : ∀ record ∈ system.server.committed "permission_grants",
    record ∈ overlap.tables "permission_grants" ∨
      ∃ party, (place party).Won ∧ ∃ template ∈ overlap.templates,
        Fills overlap.id template record ∧ InVain overlap.id (system.said party) template.id
  beaten : ∀ party error, place party = .undoing error ∨ place party = .ended (.error error) →
    overlap.Beaten system place party error
  /-- Of two calls that have succeeded one has searched for nothing in vain. -/
  single : ∀ party other, party ≠ other → (place party).Won → (place other).Won →
    ∀ id id', InVain overlap.id (system.said party) id →
      ¬ InVain overlap.id (system.said other) id'

/-- Before the first statement all of it holds. -/
theorem holds_start (consistent : Consistent Schema.definitions overlap.tables)
    (clear : overlap.id.client = -1 → ∀ record ∈ overlap.tables "permission_grants",
      record "subject_client_id" = .null →
        record "subject_object_id" ≠ .int overlap.id.object) :
    overlap.Holds
      (System.start overlap.tables fun party =>
        (write (.provisionDefaults overlap.kind overlap.id (overlap.owner party))).run)
      (fun _ => .asking .begin [] []) where
  program := fun party => write_provisionDefaults (overlap.order party)
  serves := by
    refine ⟨Server.sound_start consistent, ?_, fun _ _ h => h, fun _ _ _ => ⟨rfl, fun _ => rfl⟩⟩
    rintro record (hrecord | ⟨_, hnone⟩)
    · have hadmitted := consistent.admitted _ record hrecord
      exact plain_of_admits hadmitted fun hminus => clear hminus record hrecord
    · cases hnone
  fares := by
    intro party
    refine ⟨.beginning rfl, fun _ _ _ => by simp, by rintro _ ⟨⟩, by rintro _ ⟨⟩, ?_⟩
    rintro id ⟨_, ⟨⟩⟩
  committed := fun _ => Or.inl
  beaten := by
    rintro _ _ (⟨⟨⟩⟩ | ⟨⟨⟩⟩)
  single := by
    rintro _ _ _ ⟨_, ⟨⟩⟩

section Winning

variable {server : Server Party} {grants : List Grant} {template : Template}

/-- A call that has succeeded has the committed grants of the templates. -/
theorem Stands.committed (stands : overlap.Stands server party (.ended (.ok grants))) :
    List.Forall₂ (overlap.Gets server.committed) overlap.templates grants := by
  obtain _ | _ | _ | _ | _ | _ | _ | ⟨idle, got⟩ := stands
  refine got.imp fun _ _ gets => gets.mono fun record hrecord => ?_
  refine (server.mem_visible.mp hrecord).resolve_right fun hown => ?_
  rw [Server.own, idle] at hown
  cases hown

/-- While a call has succeeded no other one has a grant of its own. -/
theorem Holds.own_free_of_won (holds : overlap.Holds system place) (won : (place other).Won)
    (listed : template ∈ overlap.templates) {record : Record}
    (own : record ∈ system.server.own party "permission_grants") :
    ¬ Fills overlap.id template record := by
  intro hfills
  obtain ⟨grants, hgrants⟩ := won
  have hgot := (hgrants ▸ (holds.fares other).stands).committed
  obtain ⟨grant, _, gets⟩ := Store.exists_mem_of_forall₂ hgot.flip listed
  obtain ⟨theirs, hcommitted, hfills', _⟩ := gets.filled
  exact holds.serves.sound.apart party _ record theirs own (Or.inl hcommitted)
    (hfills.collide hfills')

/-- A call that has come to the place of a template behind another one that it
has searched for in vain has stored the grant of that one. -/
theorem Holds.not_inVain_of_won (holds : overlap.Holds system place) (won : (place other).Won)
    (goes : 2 ≤ overlap.budget (place party)) {id : TemplateId}
    (behind : overlap.budget (place party) ≤ 3 * overlap.rank id + 3) :
    ¬ InVain overlap.id (system.said party) id := by
  intro hvain
  obtain ⟨template, hlisted, rfl, _, _, hstored⟩ := (holds.fares party).vain id hvain
  obtain ⟨record, hrecord, hfills⟩ := hstored goes behind
  exact holds.own_free_of_won won hlisted hrecord hfills

/-- A call that finds the grant stored that it has searched for in vain is beaten
by the call that has stored it, and has searched for nothing else in vain. -/
theorem Holds.beaten_of_stored (founded : overlap.Founded) (holds : overlap.Holds system place)
    {done : List Grant} {left : List Template}
    (storing : place party = .asking (.store template) done left) {record : Record}
    (there : record ∈ system.server.visible party "permission_grants")
    (fills : Fills overlap.id template record) :
    InVain overlap.id (system.said party) template.id ∧
      (∀ id, InVain overlap.id (system.said party) id → id = template.id) ∧
        ∃ other, (place other).Won ∧ InVain overlap.id (system.said other) template.id := by
  have hfares := holds.fares party
  have hvain := hfares.searched template done left storing
  have hstands := hfares.stands
  rw [storing] at hstands
  obtain _ | _ | _ | ⟨_, split, _⟩ := hstands
  have hrank := founded.rank_eq split
  have hplace : overlap.budget (place party) = 3 * overlap.rank template.id + 4 := by
    rw [storing, budget_store, hrank]
  have hcommitted : record ∈ system.server.committed "permission_grants" := by
    refine (system.server.mem_visible.mp there).resolve_right fun hown => ?_
    obtain ⟨own, _, hfills, _, hbehind⟩ := hfares.grants record hown
    rw [fills.id_eq hfills] at hplace
    omega
  obtain ⟨other, hwon, hvain'⟩ : ∃ other, (place other).Won ∧
      InVain overlap.id (system.said other) template.id := by
    rcases holds.committed record hcommitted with hfirst | ⟨other, hwon, own, _, hfills, hvain'⟩
    · obtain ⟨own, _, hid, hfree, _⟩ := hfares.vain _ hvain
      exact absurd (fills.congr hid.symm) (hfree record hfirst)
    · rw [← fills.id_eq hfills] at hvain'
      exact ⟨other, hwon, hvain'⟩
  refine ⟨hvain, fun id hid => ?_, other, hwon, hvain'⟩
  obtain ⟨own, hlisted, rfl, _, hnot_before, _⟩ := hfares.vain id hid
  have hnot_behind : ¬ overlap.budget (place party) ≤ 3 * overlap.rank own.id + 3 := by
    intro hbehind
    exact holds.not_inVain_of_won hwon (by omega) hbehind hid
  exact rank_inj hlisted (by omega)

end Winning

section Turn

variable [DecidableEq Party] {exchange : Exchange Command.Answer}

/-- One party moves, and the others stay where they are. -/
structure Turns (overlap : Overlap Party)
    (system next : System Party (Except StorageError (List Grant))) (place later : Party → Stage)
    (party : Party) (exchange : Exchange Command.Answer) : Prop where
  move : overlap.Moves system.server party (place party) exchange next.server (later party)
  spares : system.server.Spares next.server party
  sound : next.server.Sound Schema.definitions
  said : next.said party = system.said party ++ [exchange]
  aside : ∀ other, other ≠ party → later other = place other ∧ next.said other = system.said other
  program : ∀ other, next.program other = (overlap.order other).talk (later other)

namespace Turns

variable {id : TemplateId}

theorem inVain (turns : overlap.Turns system next place later party exchange)
    (h : InVain overlap.id (system.said other) id) : InVain overlap.id (next.said other) id := by
  rcases eq_or_ne other party with rfl | hne
  · rw [turns.said]
    exact h.append
  · rwa [(turns.aside other hne).2]

theorem won (turns : overlap.Turns system next place later party exchange)
    (h : (place other).Won) : (later other).Won := by
  rcases eq_or_ne other party with rfl | hne
  · exact absurd h turns.move.not_won
  · rwa [(turns.aside other hne).1]

theorem fares (turns : overlap.Turns system next place later party exchange)
    (founded : overlap.Founded) (holds : overlap.Holds system place) (other : Party) :
    overlap.Fares next.server other (later other) (next.said other) := by
  rcases eq_or_ne other party with rfl | hne
  · rw [turns.said]
    exact (holds.fares other).moves founded holds.serves turns.move
  · obtain ⟨hlater, hsaid⟩ := turns.aside other hne
    rw [hlater, hsaid]
    exact (holds.fares other).aside turns.spares hne

theorem committed (turns : overlap.Turns system next place later party exchange)
    (holds : overlap.Holds system place) {record : Record}
    (h : record ∈ next.server.committed "permission_grants") :
    record ∈ overlap.tables "permission_grants" ∨
      ∃ party, (later party).Won ∧ ∃ template ∈ overlap.templates,
        Fills overlap.id template record ∧ InVain overlap.id (next.said party) template.id := by
  rcases turns.move.committed_cases h with hold | ⟨hown, hover⟩
  · refine (holds.committed record hold).imp_right ?_
    rintro ⟨other, hwon, template, hlisted, hfills, hvain⟩
    exact ⟨other, turns.won hwon, template, hlisted, hfills, turns.inVain hvain⟩
  · obtain ⟨template, hlisted, hfills, hvain, _⟩ := (holds.fares party).grants record hown
    exact Or.inr ⟨party, hover, template, hlisted, hfills, turns.inVain hvain⟩

theorem beaten (turns : overlap.Turns system next place later party exchange)
    (founded : overlap.Founded) (holds : overlap.Holds system place) {error : StorageError}
    (h : later other = .undoing error ∨ later other = .ended (.error error)) :
    overlap.Beaten next later other error := by
  have hkeep {template : TemplateId}
      (found : ∃ winner, (place winner).Won ∧ InVain overlap.id (system.said winner) template) :
      ∃ winner, (later winner).Won ∧ InVain overlap.id (next.said winner) template := by
    obtain ⟨winner, hwon, hvain⟩ := found
    exact ⟨winner, turns.won hwon, turns.inVain hvain⟩
  rcases eq_or_ne other party with rfl | hne
  · rcases turns.move.beaten_cases h with
      hold | ⟨template, _, _, hstoring, herror, _, there, fills⟩
    · obtain ⟨template, herror, hvain, hwinner⟩ := holds.beaten other error (Or.inl hold)
      refine ⟨template, herror, fun id => ?_, hkeep hwinner⟩
      rw [turns.said, turns.move.inVain_of_not_find (by simp [hold]), hvain]
    · obtain ⟨hvain, hunique, hwinner⟩ := holds.beaten_of_stored founded hstoring there fills
      refine ⟨template.id, herror, fun id => ?_, hkeep hwinner⟩
      rw [turns.said, turns.move.inVain_of_not_find (by simp [hstoring])]
      refine ⟨hunique id, ?_⟩
      rintro rfl
      exact hvain
  · obtain ⟨hlater, hsaid⟩ := turns.aside other hne
    rw [hlater] at h
    obtain ⟨template, herror, hvain, hwinner⟩ := holds.beaten other error h
    refine ⟨template, herror, fun id => ?_, hkeep hwinner⟩
    rw [hsaid, hvain]

/-- A call that commits when another one has has searched for nothing in vain. -/
theorem not_inVain_of_won (turns : overlap.Turns system next place later party exchange)
    (holds : overlap.Holds system place) (wins : (later party).Won) (won : (place other).Won) :
    ¬ InVain overlap.id (next.said party) id := by
  have hbudget := turns.move.commit_of_won wins
  rw [turns.said, turns.move.inVain_of_not_find fun _ _ _ hfind => by simp [hfind] at hbudget]
  exact holds.not_inVain_of_won won (by omega) (by omega)

theorem single (turns : overlap.Turns system next place later party exchange)
    (holds : overlap.Holds system place) {first second : Party} (hne : first ≠ second)
    (hfirst : (later first).Won) (hsecond : (later second).Won) (id id' : TemplateId)
    (hvain : InVain overlap.id (next.said first) id) :
    ¬ InVain overlap.id (next.said second) id' := by
  intro hvain'
  rcases eq_or_ne first party with rfl | hfirst_ne
  · rw [(turns.aside second hne.symm).1] at hsecond
    exact turns.not_inVain_of_won holds hfirst hsecond hvain
  rcases eq_or_ne second party with rfl | hsecond_ne
  · rw [(turns.aside first hne).1] at hfirst
    exact turns.not_inVain_of_won holds hsecond hfirst hvain'
  obtain ⟨hlater, hsaid⟩ := turns.aside first hfirst_ne
  obtain ⟨hlater', hsaid'⟩ := turns.aside second hsecond_ne
  rw [hlater] at hfirst
  rw [hlater'] at hsecond
  rw [hsaid] at hvain
  rw [hsaid'] at hvain'
  exact holds.single first second hne hfirst hsecond id id' hvain hvain'

/-- The step lemma: what holds of the calls holds of them after any move. -/
theorem holds (turns : overlap.Turns system next place later party exchange)
    (founded : overlap.Founded) (holds : overlap.Holds system place) :
    overlap.Holds next later where
  program := turns.program
  serves := turns.move.serves holds.serves turns.sound turns.spares
  fares := turns.fares founded holds
  committed := fun _ => turns.committed holds
  beaten := fun _ _ => turns.beaten founded holds
  single := fun _ _ => turns.single holds

end Turns

theorem talk_ne_report {order : Provisioning} {event : Event}
    {rest : Dialogue Command Command.Answer (Except StorageError (List Grant))} :
    order.talk stage ≠ .report event rest := by
  intro h
  cases stage with
  | asking step done left =>
      rw [talk] at h
      cases h
  | undoing error =>
      rw [talk] at h
      cases h
  | ended result =>
      rw [talk] at h
      cases h

/-- A step of the system is a move of one party. -/
theorem Holds.step (founded : overlap.Founded) (holds : overlap.Holds system place)
    (step : System.Step Schema.definitions system next) :
    ∃ party stage', overlap.Holds next (Function.update place party stage') ∧
      overlap.budget stage' < overlap.budget (place party) := by
  cases step with
  | @asks party question rest answer after asking executes =>
      rw [holds.program party] at asking
      obtain ⟨stage', hrest, hmove⟩ := exists_moves founded holds.serves
        (holds.fares party).stands asking executes
      refine ⟨party, stage', Turns.holds ⟨?_, executes.spares, holds.serves.sound.executes executes,
        System.said_answered_self, ?_, ?_⟩ founded holds, hmove.budget_lt⟩
      · rwa [Function.update_self]
      · exact fun other hne => ⟨Function.update_of_ne hne .., System.said_answered_of_ne hne⟩
      · intro other
        rcases eq_or_ne other party with rfl | hne
        · rw [System.program_answered_self, Function.update_self, hrest]
        · rw [System.program_answered_of_ne hne, Function.update_of_ne hne, holds.program]
  | @reports party _ _ reporting =>
      rw [holds.program party] at reporting
      exact absurd reporting talk_ne_report

end Turn

section Progress

/-- A stored grant was there at first, or it is the instance's of a template. -/
theorem Holds.stored_cases (holds : overlap.Holds system place) {record : Record}
    (h : system.server.Stores "permission_grants" record) :
    record ∈ overlap.tables "permission_grants" ∨
      ∃ template ∈ overlap.templates, Fills overlap.id template record := by
  rcases h with hcommitted | ⟨party, hown⟩
  · refine (holds.committed record hcommitted).imp_right ?_
    rintro ⟨_, _, template, hlisted, hfills, _⟩
    exact ⟨template, hlisted, hfills⟩
  · obtain ⟨template, hlisted, hfills, _⟩ := (holds.fares party).grants record hown
    exact Or.inr ⟨template, hlisted, hfills⟩

/-- The grants of one template for the instance have one number. -/
theorem Serves.exists_number (serves : overlap.Serves system.server) (template : Template) :
    ∃ n, ∀ record, system.server.Stores "permission_grants" record →
      Fills overlap.id template record → record "id" = .int n := by
  by_cases h : ∃ record, system.server.Stores "permission_grants" record ∧
      Fills overlap.id template record
  · obtain ⟨own, hown, hfills⟩ := h
    obtain ⟨grant, hid⟩ := (serves.plain own hown).numbered
    refine ⟨grant.value, fun record hrecord hfills' => ?_⟩
    rw [serves.sound.distinct _ record own hrecord hown (hfills'.collide hfills), hid]
  · exact ⟨0, fun record hrecord hfills => absurd ⟨record, hrecord, hfills⟩ h⟩

/-- The serial has a number left for one grant of each template. -/
theorem Holds.exists_number (holds : overlap.Holds system place)
    (room : (overlap.tables "permission_grants").length + overlap.templates.length < 2 ^ 63 - 1) :
    ∃ n, 0 < n ∧
      ∀ record, system.server.Stores "permission_grants" record → record "id" ≠ .int n := by
  choose number hnumber using holds.serves.exists_number
  have hlength : ((overlap.tables "permission_grants").map numberOf ++
      overlap.templates.map number).length < 2 ^ 63 - 1 := by
    rwa [List.length_append, List.length_map, List.length_map]
  obtain ⟨n, hpositive, hfree⟩ := exists_pos_not_mem hlength
  refine ⟨n, hpositive, fun record hrecord hid => hfree ?_⟩
  rw [List.mem_append, List.mem_map, List.mem_map]
  rcases holds.stored_cases hrecord with hfirst | ⟨template, hlisted, hfills⟩
  · exact Or.inl ⟨record, hfirst, by rw [numberOf, hid]⟩
  · have hsame := hnumber template record hrecord hfills
    rw [hid, Value.int.injEq] at hsame
    exact Or.inr ⟨template, hlisted, hsame.symm⟩

section Waiting

variable {past left : List Template} {template : Template} {grant : Grant} {record : Record}

/-- A call that has written rows, and still has them, has not come to its end. -/
theorem Stands.budget_pos {server : Server Party} {stage : Stage} {table : String}
    {record : Record} (stands : overlap.Stands server party stage)
    (own : record ∈ server.own party table) : 0 < overlap.budget stage := by
  cases stands with
  | succeeded idle =>
      rw [Server.own, idle] at own
      cases own
  | refused idle =>
      rw [Server.own, idle] at own
      cases own
  | _ => simp

/-- A call that has a grant of its own for a template is behind that template. -/
theorem Holds.ahead_of_grant (founded : overlap.Founded) (holds : overlap.Holds system place)
    (split : overlap.templates = past ++ template :: left)
    (own : record ∈ system.server.own other "permission_grants")
    (fills : Fills overlap.id template record) :
    overlap.budget (place other) ≤ 3 * left.length + 3 := by
  obtain ⟨theirs, _, hfills, _, hplace⟩ := (holds.fares other).grants record own
  rwa [← fills.id_eq hfills, founded.rank_eq split] at hplace

theorem Holds.ahead_of_link (founded : overlap.Founded) (holds : overlap.Holds system place)
    (split : overlap.templates = past ++ template :: left)
    (gets : overlap.Gets (system.server.visible party) template grant)
    (own : record ∈ system.server.own other "actor_grants")
    (linked : record "grant_id" = .int grant.id.value) :
    overlap.budget (place other) ≤ 3 * left.length + 2 := by
  obtain ⟨theirs, _, id, hfilled, hlinked, hplace⟩ := (holds.fares other).links record own
  rw [hlinked, Value.int.injEq, RowId.value_inj] at linked
  have hsame := holds.serves.template_eq gets.filled (linked ▸ hfilled)
  rwa [← hsame, founded.rank_eq split] at hplace

end Waiting

variable [DecidableEq Party]

theorem Holds.step_of_executes (holds : overlap.Holds system place) {step : Step}
    {done : List Grant} {left : List Template} (asking : place party = .asking step done left)
    (executes : ∃ answer after, Executes Schema.definitions system.server party
      ((overlap.order party).command step) answer after) :
    ∃ next, System.Step Schema.definitions system next := by
  obtain ⟨answer, after, hexecutes⟩ := executes
  have hprogram := holds.program party
  rw [asking, talk] at hprogram
  exact ⟨_, .asks hprogram hexecutes⟩

/-- A call that has not come to its end can go on, or it waits for one that is
further on, so that some call can. -/
theorem Holds.exists_step (founded : overlap.Founded) (holds : overlap.Holds system place)
    (room : (overlap.tables "permission_grants").length + overlap.templates.length < 2 ^ 63 - 1)
    (goes : 0 < overlap.budget (place party)) :
    ∃ next, System.Step Schema.definitions system next := by
  induction hbudget : overlap.budget (place party) using Nat.strong_induction_on
    generalizing party with
  | _ n ih =>
  have hstands := (holds.fares party).stands
  generalize hplace : place party = stage at hstands goes hbudget
  cases hstands with
  | beginning idle => exact holds.step_of_executes hplace ⟨_, _, .begin idle ⟨[], 0⟩⟩
  | listing active =>
      have hyields := Select.yields_rows (system.server.visible party) [] (listing overlap.kind)
      exact holds.step_of_executes hplace ⟨_, _, .select active 0 hyields⟩
  | @finding _ _ _ template _ active split got =>
      have hyields := Select.yields_rows (system.server.visible party)
        ((overlap.order party).key template) search
      exact holds.step_of_executes hplace ⟨_, _, .select active 0 hyields⟩
  | @storing _ _ _ template _ active split got =>
      obtain ⟨number, hpositive, hfree⟩ := holds.exists_number room
      have hplain := fun other record hown => holds.serves.plain record (Or.inr ⟨other, hown⟩)
      have hcases := store_or_waits (overlap.order party) template active hplain hpositive hfree
      rcases hcases with hexecutes | ⟨other, _, record, hown, hfills⟩
      · exact holds.step_of_executes hplace hexecutes
      · have hahead := holds.ahead_of_grant founded split hown hfills
        rw [budget_store] at hbudget
        exact ih _ (by omega) ((holds.fares other).stands.budget_pos hown) rfl
  | @linking _ _ _ _ _ grant active split got gets =>
      have hcases := link_or_waits (overlap.order party) grant active
      rcases hcases with hexecutes | ⟨other, _, record, hown, hlinked⟩
      · exact holds.step_of_executes hplace hexecutes
      · have hahead := holds.ahead_of_link founded split gets hown hlinked
        rw [budget_link] at hbudget
        exact ih _ (by omega) ((holds.fares other).stands.budget_pos hown) rfl
  | committing active got => exact holds.step_of_executes hplace ⟨_, _, .commit active ⟨[], 0⟩⟩
  | undoing failed =>
      have hprogram := holds.program party
      rw [hplace, talk] at hprogram
      exact ⟨_, .asks hprogram (.rollBack (by simp [failed]) ⟨[], 0⟩)⟩
  | succeeded => simp at goes
  | refused => simp at goes

end Progress

end Overlap

end AccessGrants.Database
