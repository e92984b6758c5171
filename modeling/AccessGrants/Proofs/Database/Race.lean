import AccessGrants.Proofs.Database.Overlap

/-!
How a call fares among others that provision the same instance. It has written
the grants that it has searched for in vain and come past, and the links of the
templates behind it; by moving it keeps to this, and others do not change it.
-/

namespace AccessGrants.Database

open Sql Provisioning

namespace Overlap

variable {Party : Type} {overlap : Overlap Party}

section Positions

variable {past left : List Template} {template other : Template} {done : List Grant}

theorem Founded.rank_eq (founded : overlap.Founded)
    (split : overlap.templates = past ++ template :: left) :
    overlap.rank template.id = left.length := by
  have hnodup := founded.lists.nodup
  rw [split, List.map_append, List.map_cons, List.nodup_append] at hnodup
  have hleft : template.id ∉ (left.map Template.id).reverse := by
    rw [List.mem_reverse]
    exact (List.nodup_cons.mp hnodup.2.1).1
  rw [rank, split, List.map_append, List.map_cons, List.reverse_append, List.reverse_cons,
    List.append_assoc, List.idxOf_append_of_notMem hleft]
  simp

theorem rank_lt (h : template ∈ overlap.templates) :
    overlap.rank template.id < overlap.templates.length := by
  have hmem : template.id ∈ (overlap.templates.map Template.id).reverse :=
    List.mem_reverse.mpr (List.mem_map_of_mem h)
  simpa [rank] using List.idxOf_lt_length_of_mem hmem

theorem rank_inj (h : template ∈ overlap.templates)
    (same : overlap.rank template.id = overlap.rank other.id) : template.id = other.id := by
  have hmem : template.id ∈ (overlap.templates.map Template.id).reverse :=
    List.mem_reverse.mpr (List.mem_map_of_mem h)
  exact (List.idxOf_inj hmem).mp same

end Positions

variable {server after : Server Party} {party : Party} {stage stage' : Stage}
  {exchange : Exchange Command.Answer} {said : List (Exchange Command.Answer)} {record : Record}
  {table : String}

section Moving

variable [DecidableEq Party]

theorem Moves.budget_lt (move : overlap.Moves server party stage exchange after stage') :
    overlap.budget stage' < overlap.budget stage := by
  cases move <;> simp

/-- What a party has written of its own is what it had written before, or the
row that it has just inserted. -/
theorem Moves.own_cases (move : overlap.Moves server party stage exchange after stage')
    (h : record ∈ after.own party table) :
    record ∈ server.own party table ∨
      (table = "permission_grants" ∧ ∃ template done left,
        stage = .asking (.store template) done left ∧ Fills overlap.id template record ∧
          Plain overlap.id record ∧ overlap.budget stage' = 3 * left.length + 3) ∨
      (table = "actor_grants" ∧ ∃ grant done left, stage = .asking (.link grant) done left ∧
        record "grant_id" = .int grant.id.value ∧
          overlap.budget stage' = 3 * left.length + 2) := by
  cases move with
  | begins => simp [Standing.written] at h
  | lists => exact Or.inl h
  | finds => exact Or.inl h
  | misses => exact Or.inl h
  | relinks => exact Or.inl h
  | stores active fills numbered =>
      rw [server.own_write active, Tables.mem_add] at h
      refine h.imp_right ?_
      rintro ⟨rfl, rfl⟩
      exact Or.inl ⟨rfl, _, _, _, rfl, fills, fills.plain numbered, rfl⟩
  | links active linked =>
      rw [server.own_write active, Tables.mem_add] at h
      refine h.imp_right ?_
      rintro ⟨rfl, rfl⟩
      exact Or.inr ⟨rfl, _, _, _, rfl, linked, by simp⟩
  | loses => simp [Standing.written] at h
  | commits => simp at h
  | undoes => simp [Standing.written] at h

/-- A party that goes on has all that it had written. -/
theorem Moves.own_subset (move : overlap.Moves server party stage exchange after stage')
    (goes : 2 ≤ overlap.budget stage') (h : record ∈ server.own party table) :
    record ∈ after.own party table := by
  cases move with
  | begins idle =>
      rw [Server.own, idle] at h
      cases h
  | lists => exact h
  | finds => exact h
  | misses => exact h
  | relinks => exact h
  | stores active =>
      rw [server.own_write active, Tables.mem_add]
      exact Or.inl h
  | links active =>
      rw [server.own_write active, Tables.mem_add]
      exact Or.inl h
  | loses => simp at goes
  | commits => simp at goes
  | undoes => simp at goes

theorem Moves.visible_subset (move : overlap.Moves server party stage exchange after stage')
    (goes : 2 ≤ overlap.budget stage') (h : record ∈ server.visible party table) :
    record ∈ after.visible party table := by
  rcases server.mem_visible.mp h with hcommitted | hown
  · refine after.mem_visible.mpr (Or.inl ?_)
    cases move with
    | commits => exact server.mem_visible.mpr (Or.inl hcommitted)
    | _ => exact hcommitted
  · exact after.mem_visible.mpr (Or.inr (move.own_subset goes hown))

/-- What is committed was so before, or the party has committed it just now. -/
theorem Moves.committed_cases (move : overlap.Moves server party stage exchange after stage')
    (h : record ∈ after.committed table) :
    record ∈ server.committed table ∨
      record ∈ server.own party table ∧ ∃ grants, stage' = .ended (.ok grants) := by
  cases move with
  | commits => exact (server.mem_visible.mp h).imp_right fun hown => ⟨hown, _, rfl⟩
  | _ => exact Or.inl h

/-- Only a search that finds nothing adds to what was searched for in vain. -/
theorem Moves.inVain_cases (move : overlap.Moves server party stage exchange after stage')
    {template : TemplateId} (h : InVain overlap.id (said ++ [exchange]) template) :
    InVain overlap.id said template ∨ ∃ own done left, own.id = template ∧
      stage = .asking (.find own) done left ∧ stage' = .asking (.store own) done left ∧
        ∀ record ∈ server.visible party "permission_grants", ¬ Fills overlap.id own record := by
  obtain ⟨affected, hmem⟩ := h
  rcases List.mem_append.mp hmem with hold | hnew
  · exact Or.inl ⟨affected, hold⟩
  · rw [List.mem_singleton] at hnew
    cases move with
    | @misses own _ _ _ missing =>
        have hkey : Value.int template.value :: _ = .int own.id.value :: _ :=
          congrArg (fun sent => sent.question.parameters) hnew
        rw [List.cons.injEq, Value.int.injEq] at hkey
        exact Or.inr ⟨own, _, _, (RowId.value_inj.mp hkey.1).symm, rfl, rfl, missing⟩
    | finds => simp at hnew
    | _ => cases hnew

/-- A party that has written rows, and still has them, goes on. -/
theorem Moves.goes_of_own (move : overlap.Moves server party stage exchange after stage')
    (h : record ∈ after.own party table) : 2 ≤ overlap.budget stage' := by
  cases move with
  | loses => simp [Standing.written] at h
  | commits => simp at h
  | undoes => simp [Standing.written] at h
  | _ => simp

theorem turn_ne_store {done done' : List Grant} {left left' : List Template}
    {template : Template} : turn done left ≠ .asking (.store template) done' left' := by
  cases left <;> simp [turn]

theorem turn_not_won {done : List Grant} {left : List Template} : ¬ (turn done left).Won := by
  cases left <;> simp [turn, Stage.Won]

theorem Moves.not_won (move : overlap.Moves server party stage exchange after stage') :
    ¬ stage.Won := by
  rintro ⟨grants, rfl⟩
  cases move

/-- A party that moves to its end with grants has committed. -/
theorem Moves.commit_of_won (move : overlap.Moves server party stage exchange after stage')
    (won : stage'.Won) : overlap.budget stage = 2 := by
  cases move with
  | commits => rfl
  | lists => exact absurd won turn_not_won
  | links => exact absurd won turn_not_won
  | relinks => exact absurd won turn_not_won
  | _ =>
      obtain ⟨_, hwon⟩ := won
      cases hwon

/-- A call is beaten when it finds the grant stored that it wants to store. -/
theorem Moves.beaten_cases (move : overlap.Moves server party stage exchange after stage')
    {error : StorageError} (beaten : stage' = .undoing error ∨ stage' = .ended (.error error)) :
    stage = .undoing error ∨ ∃ template done left, stage = .asking (.store template) done left ∧
      error = .duplicate ("grant of " ++ template.id.label) ∧
        ∃ record ∈ server.visible party "permission_grants",
          Fills overlap.id template record := by
  have hturn {done : List Grant} {left : List Template} :
      ¬ (turn done left = .undoing error ∨ turn done left = .ended (.error error)) := by
    cases left <;> simp [turn]
  cases move with
  | undoes =>
      obtain ⟨⟨⟩⟩ | ⟨⟨⟩⟩ := beaten
      exact Or.inl rfl
  | loses there fills =>
      obtain ⟨⟨⟩⟩ | ⟨⟨⟩⟩ := beaten
      exact Or.inr ⟨_, _, _, rfl, rfl, _, there, fills⟩
  | lists => exact absurd beaten hturn
  | links => exact absurd beaten hturn
  | relinks => exact absurd beaten hturn
  | _ => obtain ⟨⟨⟩⟩ | ⟨⟨⟩⟩ := beaten

/-- A party that goes on from a grant that it wants to store has stored it. -/
theorem Moves.stored (move : overlap.Moves server party stage exchange after stage')
    {template : Template} {done : List Grant} {left : List Template}
    (storing : stage = .asking (.store template) done left) (goes : 2 ≤ overlap.budget stage') :
    ∃ record ∈ after.own party "permission_grants", Fills overlap.id template record := by
  cases move with
  | stores active fills =>
      cases storing
      refine ⟨_, ?_, fills⟩
      rw [server.own_write active, Tables.mem_add]
      exact Or.inr ⟨rfl, rfl⟩
  | loses => simp at goes
  | _ => cases storing

/-- What is said at a stage where nothing is searched for is no search. -/
theorem Moves.inVain_of_not_find (move : overlap.Moves server party stage exchange after stage')
    (other : ∀ template done left, stage ≠ .asking (.find template) done left) {id : TemplateId} :
    InVain overlap.id (said ++ [exchange]) id ↔ InVain overlap.id said id := by
  refine ⟨fun h => ?_, InVain.append⟩
  exact (move.inVain_cases h).resolve_right fun ⟨_, _, _, _, hfind, _⟩ => other _ _ _ hfind

theorem Stands.moves (stands : overlap.Stands server party stage)
    (move : overlap.Moves server party stage exchange after stage') :
    overlap.Stands after party stage' := by
  have hmono (goes : 2 ≤ overlap.budget stage') {past : List Template} {done : List Grant}
      (got : List.Forall₂ (overlap.Gets (server.visible party)) past done) :
      List.Forall₂ (overlap.Gets (after.visible party)) past done :=
    got.imp fun _ _ gets => gets.mono fun _ => move.visible_subset goes
  cases move with
  | begins => exact .listing (by simp)
  | lists =>
      obtain _ | active := stands
      exact stands_turn active rfl .nil
  | finds gets =>
      obtain _ | _ | ⟨active, split, got⟩ := stands
      exact .linking active split got gets
  | misses =>
      obtain _ | _ | ⟨active, split, got⟩ := stands
      exact .storing active split got
  | stores active fills numbered =>
      obtain _ | _ | _ | ⟨_, split, got⟩ := stands
      have hgot := hmono (by simp) got
      refine .linking server.standing_become_self split hgot ⟨rfl, _, ?_, fills, numbered⟩
      rw [Server.mem_visible, server.own_write active, Tables.mem_add]
      exact Or.inr (Or.inr ⟨rfl, rfl⟩)
  | links active linked =>
      obtain _ | _ | _ | _ | ⟨_, split, got, gets⟩ := stands
      have hgot := hmono (by simp) (List.rel_append got (.cons gets .nil))
      exact stands_turn server.standing_become_self (List.append_cons .. ▸ split) hgot
  | relinks =>
      obtain _ | _ | _ | _ | ⟨active, split, got, gets⟩ := stands
      refine stands_turn active (List.append_cons .. ▸ split) ?_
      exact List.rel_append got (.cons gets .nil)
  | loses => exact .undoing (by simp)
  | commits =>
      obtain _ | _ | _ | _ | _ | ⟨active, got⟩ := stands
      refine .succeeded (by simp) (got.imp fun _ _ gets => gets.mono fun record hrecord => ?_)
      exact (server.commit party).mem_visible.mpr (Or.inl hrecord)
  | undoes => exact .refused (by simp)

/-- A party that moves leaves the server as it is asked for. -/
theorem Moves.serves (serves : overlap.Serves server) (sound : after.Sound Schema.definitions)
    (move : overlap.Moves server party stage exchange after stage')
    (spares : server.Spares after party) : overlap.Serves after where
  sound := sound
  plain := by
    have hown {record : Record} {other : Party}
        (h : record ∈ server.own other "permission_grants") : Plain overlap.id record :=
      serves.plain record (Or.inr ⟨other, h⟩)
    rintro record (hcommitted | ⟨other, hmem⟩)
    · rcases move.committed_cases hcommitted with hold | ⟨hmem, _⟩
      · exact serves.plain record (Or.inl hold)
      · exact hown hmem
    · rcases eq_or_ne other party with rfl | hne
      · rcases move.own_cases hmem with hold | ⟨_, _, _, _, _, _, hplain, _⟩ | ⟨hne, _⟩
        · exact hown hold
        · exact hplain
        · exact absurd hne (by decide)
      · rw [Server.own, spares.standing other hne] at hmem
        exact hown hmem
  kept := fun table record h => spares.committed table record (serves.kept table record h)
  others := by
    intro table hgrants hlinks
    obtain ⟨hcommitted, hown⟩ := serves.others table hgrants hlinks
    constructor
    · cases move with
      | commits =>
          change server.committed table ++ server.own party table = _
          rw [hcommitted, hown, List.append_nil]
      | _ => exact hcommitted
    · intro other
      rcases eq_or_ne other party with rfl | hne
      · rw [List.eq_nil_iff_forall_not_mem]
        intro record hrecord
        rcases move.own_cases hrecord with hold | ⟨heq, _⟩ | ⟨heq, _⟩
        · rw [hown] at hold
          cases hold
        · exact hgrants heq
        · exact hlinks heq
      · rw [Server.own, spares.standing other hne]
        exact hown other

end Moving

/-- How a party fares: what it has written and searched for in vain, by the
place in the listing that it has come to. -/
structure Fares (overlap : Overlap Party) (server : Server Party) (party : Party) (stage : Stage)
    (said : List (Exchange Command.Answer)) : Prop where
  stands : overlap.Stands server party stage
  /-- Only what was searched for in vain is stored. -/
  searched : ∀ template done left, stage = .asking (.store template) done left →
    InVain overlap.id said template.id
  grants : ∀ record ∈ server.own party "permission_grants", ∃ template ∈ overlap.templates,
    Fills overlap.id template record ∧ InVain overlap.id said template.id ∧
      overlap.budget stage ≤ 3 * overlap.rank template.id + 3
  links : ∀ record ∈ server.own party "actor_grants", ∃ template ∈ overlap.templates,
    ∃ grant : GrantId, Filled overlap.id (server.visible party) template grant ∧
      record "grant_id" = .int grant.value ∧
        overlap.budget stage ≤ 3 * overlap.rank template.id + 2
  /-- A grant that was searched for in vain was not there at first, and the
  party has stored it by the time that it goes on. -/
  vain : ∀ id, InVain overlap.id said id → ∃ template ∈ overlap.templates, template.id = id ∧
    (∀ record ∈ overlap.tables "permission_grants", ¬ Fills overlap.id template record) ∧
      overlap.budget stage ≤ 3 * overlap.rank id + 4 ∧
        (2 ≤ overlap.budget stage → overlap.budget stage ≤ 3 * overlap.rank id + 3 →
          ∃ record ∈ server.own party "permission_grants", Fills overlap.id template record)

section Faring

variable [DecidableEq Party]

theorem Moves.searched (move : overlap.Moves server party stage exchange after stage')
    {template : Template} {done : List Grant} {left : List Template}
    (storing : stage' = .asking (.store template) done left) :
    InVain overlap.id (said ++ [exchange]) template.id := by
  cases move with
  | misses =>
      cases storing
      exact ⟨_, List.mem_append_right said (.head _)⟩
  | lists => exact absurd storing turn_ne_store
  | links => exact absurd storing turn_ne_store
  | relinks => exact absurd storing turn_ne_store
  | _ => cases storing

theorem Fares.grants_moves (founded : overlap.Founded)
    (fares : overlap.Fares server party stage said)
    (move : overlap.Moves server party stage exchange after stage')
    (h : record ∈ after.own party "permission_grants") :
    ∃ template ∈ overlap.templates, Fills overlap.id template record ∧
      InVain overlap.id (said ++ [exchange]) template.id ∧
        overlap.budget stage' ≤ 3 * overlap.rank template.id + 3 := by
  have hbudget := move.budget_lt
  rcases move.own_cases h with hold | ⟨_, template, done, left, rfl, hfills, _, hplace⟩ | hne
  · obtain ⟨template, hlisted, hfills, hvain, hplace⟩ := fares.grants record hold
    exact ⟨template, hlisted, hfills, hvain.append, by omega⟩
  · have hvain := fares.searched template done left rfl
    obtain _ | _ | _ | ⟨_, split, _⟩ := fares.stands
    have hrank := founded.rank_eq split
    have hlisted : template ∈ overlap.templates := split ▸ List.mem_append_cons_self
    exact ⟨template, hlisted, hfills, hvain.append, by omega⟩
  · exact absurd hne.1 (by decide)

theorem Fares.links_moves (founded : overlap.Founded)
    (fares : overlap.Fares server party stage said)
    (move : overlap.Moves server party stage exchange after stage')
    (h : record ∈ after.own party "actor_grants") :
    ∃ template ∈ overlap.templates, ∃ grant : GrantId,
      Filled overlap.id (after.visible party) template grant ∧
        record "grant_id" = .int grant.value ∧
          overlap.budget stage' ≤ 3 * overlap.rank template.id + 2 := by
  have hbudget := move.budget_lt
  have hgoes := move.goes_of_own h
  have hmono {template : Template} {grant : GrantId}
      (filled : Filled overlap.id (server.visible party) template grant) :
      Filled overlap.id (after.visible party) template grant := by
    obtain ⟨row, hrow, hfills⟩ := filled
    exact ⟨row, move.visible_subset hgoes hrow, hfills⟩
  rcases move.own_cases h with hold | hne | ⟨_, grant, done, left, rfl, hlinked, hplace⟩
  · obtain ⟨template, hlisted, grant, hfilled, hlinked, hplace⟩ := fares.links record hold
    exact ⟨template, hlisted, grant, hmono hfilled, hlinked, by omega⟩
  · exact absurd hne.1 (by decide)
  · obtain _ | _ | _ | _ | ⟨_, split, _, gets⟩ := fares.stands
    have hrank := founded.rank_eq split
    refine ⟨_, split ▸ List.mem_append_cons_self, grant.id, hmono gets.filled, hlinked, ?_⟩
    omega

omit [DecidableEq Party] in
/-- A party of which the place is that of a grant to store is about to store it. -/
theorem Stands.storing_of_budget (founded : overlap.Founded)
    (stands : overlap.Stands server party stage) {template : Template}
    (listed : template ∈ overlap.templates)
    (place : overlap.budget stage = 3 * overlap.rank template.id + 4) :
    ∃ own done left, stage = .asking (.store own) done left ∧ template.id = own.id := by
  cases stands with
  | beginning =>
      have hlt := rank_lt listed
      rw [budget_begin] at place
      omega
  | storing active split got =>
      have hrank := founded.rank_eq split
      rw [budget_store] at place
      exact ⟨_, _, _, rfl, rank_inj listed (by omega)⟩
  | _ =>
      simp only [budget_list, budget_find, budget_link, budget_commit, budget_undoing,
        budget_ended] at place
      omega

theorem Fares.vain_moves (founded : overlap.Founded) (serves : overlap.Serves server)
    (fares : overlap.Fares server party stage said)
    (move : overlap.Moves server party stage exchange after stage') {id : TemplateId}
    (h : InVain overlap.id (said ++ [exchange]) id) :
    ∃ template ∈ overlap.templates, template.id = id ∧
      (∀ record ∈ overlap.tables "permission_grants", ¬ Fills overlap.id template record) ∧
        overlap.budget stage' ≤ 3 * overlap.rank id + 4 ∧
          (2 ≤ overlap.budget stage' → overlap.budget stage' ≤ 3 * overlap.rank id + 3 →
            ∃ record ∈ after.own party "permission_grants", Fills overlap.id template record) := by
  have hbudget := move.budget_lt
  rcases move.inVain_cases h with hold | ⟨own, done, left, rfl, rfl, rfl, hmissing⟩
  · obtain ⟨template, hlisted, rfl, hfree, hplace, hstored⟩ := fares.vain id hold
    refine ⟨template, hlisted, rfl, hfree, by omega, fun hgoes hbehind => ?_⟩
    -- The party was behind the template already, or it is only now that it stores the grant.
    by_cases hbefore : overlap.budget stage ≤ 3 * overlap.rank template.id + 3
    · obtain ⟨record, hrecord, hfills⟩ := hstored (by omega) hbefore
      exact ⟨record, move.own_subset hgoes hrecord, hfills⟩
    · obtain ⟨own, done, left, hstoring, hsame⟩ :=
        fares.stands.storing_of_budget founded hlisted (by omega)
      obtain ⟨record, hrecord, hfills⟩ := move.stored hstoring hgoes
      exact ⟨record, hrecord, hfills.congr hsame.symm⟩
  · obtain _ | _ | ⟨_, split, _⟩ := fares.stands
    have hrank := founded.rank_eq split
    have hlisted : own ∈ overlap.templates := split ▸ List.mem_append_cons_self
    refine ⟨own, hlisted, rfl, fun record hrecord => hmissing record ?_, ?_, ?_⟩
    · exact serves.kept_visible hrecord
    · rw [budget_store, hrank]
    · rw [budget_store, hrank]
      omega

/-- A party that moves fares as before, by the place that it comes to. -/
theorem Fares.moves (founded : overlap.Founded) (serves : overlap.Serves server)
    (fares : overlap.Fares server party stage said)
    (move : overlap.Moves server party stage exchange after stage') :
    overlap.Fares after party stage' (said ++ [exchange]) where
  stands := fares.stands.moves move
  searched := fun _ _ _ => move.searched
  grants := fun _ => fares.grants_moves founded move
  links := fun _ => fares.links_moves founded move
  vain := fun _ => fares.vain_moves founded serves move

end Faring

section Aside

variable {other : Party}

theorem Stands.aside (stands : overlap.Stands server other stage)
    (standing : after.standing other = server.standing other)
    (grown : ∀ record ∈ server.visible other "permission_grants",
      record ∈ after.visible other "permission_grants") :
    overlap.Stands after other stage := by
  have hmono {past : List Template} {done : List Grant}
      (got : List.Forall₂ (overlap.Gets (server.visible other)) past done) :
      List.Forall₂ (overlap.Gets (after.visible other)) past done :=
    got.imp fun _ _ gets => gets.mono grown
  cases stands with
  | beginning idle => exact .beginning (standing.trans idle)
  | listing active => exact .listing (standing.trans active)
  | finding active split got => exact .finding (standing.trans active) split (hmono got)
  | storing active split got => exact .storing (standing.trans active) split (hmono got)
  | linking active split got gets =>
      exact .linking (standing.trans active) split (hmono got) (gets.mono grown)
  | committing active got => exact .committing (standing.trans active) (hmono got)
  | undoing failed => exact .undoing (standing.trans failed)
  | succeeded idle got => exact .succeeded (standing.trans idle) (hmono got)
  | refused idle => exact .refused (standing.trans idle)

/-- What others do does not change how a party fares. -/
theorem Fares.aside (fares : overlap.Fares server other stage said)
    (spares : server.Spares after party) (hne : other ≠ party) :
    overlap.Fares after other stage said := by
  have standing := spares.standing other hne
  have hown : after.own other = server.own other := by rw [Server.own, Server.own, standing]
  have hvisible {table : String} {record : Record} (h : record ∈ server.visible other table) :
      record ∈ after.visible other table := by
    rw [Server.mem_visible, hown]
    exact (server.mem_visible.mp h).imp_left (spares.committed table record)
  refine ⟨fares.stands.aside standing fun _ => hvisible, fares.searched, ?_, ?_, ?_⟩
  · rw [hown]
    exact fares.grants
  · rw [hown]
    intro record hrecord
    obtain ⟨template, hlisted, grant, ⟨row, hrow, hfills⟩, hlinked⟩ := fares.links record hrecord
    exact ⟨template, hlisted, grant, ⟨row, hvisible hrow, hfills⟩, hlinked⟩
  · rw [hown]
    exact fares.vain

end Aside

end Overlap

end AccessGrants.Database
