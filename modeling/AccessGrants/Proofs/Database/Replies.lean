import Mathlib.Data.Set.List
import AccessGrants.Proofs.Database.Reading
import AccessGrants.Proofs.Dialogue

/-!
What the replies are read as. The rows of a reply to the query of a read are
made of what the store answers to the same read, in any order and as often as it
may be, and they are decoded to it without an error.
-/

namespace AccessGrants.Database

open Sql

/-- The cells that the listings have of a grant. -/
def grantRow (grant : Grant) : Row :=
  [.int grant.id.value, .int grant.template.value, .text grant.subject, .text grant.action] ++
    grant.scope.columns.parameters

def grantRecord (grant : Grant) : GrantRecord :=
  ⟨grant.id, grant.template, grant.subject, grant.action, grant.scope.columns⟩

section Rows

variable {tables : Tables} {store : Store} {parameters : List Value} {reply : Reply}

theorem row_grantColumns {frame : Frame} {grant : Grant} (h : ShowsGrant frame grant) :
    grantColumns.map (Expr.value parameters frame) = grantRow grant := by
  simp only [grantColumns, List.map_cons, List.map_nil, Expr.value, h.id, h.template, h.subject,
    h.action, h.isOverride, h.client, h.object]
  rfl

/-- A listing has the rows of what the actor holds of the subject type. -/
theorem mem_rows_listing {Holds : ActorId → Grant → Prop} {distinct : Bool} {source : Source}
    {joins : List Join} {label : String} {actor : ActorId} {subject : Option String}
    (hshow : Show (joins.foldl (Join.extend tables [.int actor.value, .ofText? subject])
      (source.frames tables)) (ShowsHolder label) fun held => Holds held.1 held.2)
    (h : Answers tables [.int actor.value, .ofText? subject] (selectGrants distinct source joins
      (.both (isParameter label "actor_id" 1) ofSubject)) reply) (row : Row) :
    row ∈ reply.rows ↔
      ∃ grant, (Holds actor grant ∧ Store.subjectMatches subject grant = true) ∧
        row = grantRow grant := by
  have hholds (frame : Frame) (held : ActorId × Grant) (hshows : ShowsHolder label frame held) :
      (Expr.both (isParameter label "actor_id" 1) ofSubject).Holds
          [.int actor.value, .ofText? subject] frame ↔
        held.1 = actor ∧ Store.subjectMatches subject held.2 = true := by
    rw [Expr.holds_both, hshows.holds_actor, hshows.2.holds_ofSubject]
  have hrows := ((hshow.found hholds).second fun _ hheld => hheld.2.1).mem_rows h
    (fun _ _ hshows => row_grantColumns hshows.2) row
  rw [hrows]
  simp

variable (mirrors : Mirrors tables store) (keyed : store.Keyed)

include mirrors keyed

theorem mem_rows_actorForSession {session : SessionId}
    (h : Answers tables [.int session.value] actorForSession reply) (row : Row) :
    row ∈ reply.rows ↔
      ∃ actor, store.actorForSession session = some actor ∧ row = actorCells actor := by
  have hholds (frame : Frame) (opened : SessionId × Actor) (hshows : ShowsSession frame opened) :
      (isParameter "s" "id" 1).Holds [.int session.value] frame ↔ opened.1 = session := by
    simp [holds_isParameter, hshows.1, RowId.value_inj]
  have hrows := (((show_sessions mirrors keyed).found hholds).second fun _ hopened =>
    hopened.2).mem_rows h (fun _ _ hshows => hshows.2) row
  rw [hrows]
  simp

theorem mem_rows_actorGrants {actor : ActorId} {subject : Option String}
    (h : Answers tables [.int actor.value, .ofText? subject] actorGrants reply) (row : Row) :
    row ∈ reply.rows ↔ ∃ grant ∈ store.actorGrantsOf actor subject, row = grantRow grant := by
  rw [mem_rows_listing (show_held mirrors keyed (by decide)) h]
  simp [Store.actorGrantsOf, Store.mem_heldByActor]

theorem mem_rows_organizationGrants {actor : ActorId} {subject : Option String}
    (h : Answers tables [.int actor.value, .ofText? subject] organizationGrants reply) (row : Row) :
    row ∈ reply.rows ↔
      ∃ grant ∈ store.organizationGrantsOf actor subject, row = grantRow grant := by
  rw [mem_rows_listing (show_inherited mirrors keyed (by decide) (by decide)) h]
  simp [Store.organizationGrantsOf, Store.mem_heldByOrganizations]

theorem mem_rows_subjectGrants {subject : String} {target : Target}
    (h : Answers tables (.text subject :: target.numbers.map .int) (subjectGrants target) reply)
    (row : Row) :
    row ∈ reply.rows ↔ ∃ grant ∈ store.subjectGrants subject target, row = grantRow grant := by
  have hrows := ((show_stored mirrors keyed).found fun _ _ hshows =>
    hshows.holds_subjectGrants subject target).mem_rows h
      (fun _ _ hshows => row_grantColumns hshows) row
  rw [hrows]
  simp [Store.mem_subjectGrants]

theorem rows_grantExists {wanted : GrantQuery} {actor : ActorId} (holder : Holder)
    (h : Answers tables ([.int actor.value, .text wanted.subject, .text wanted.action] ++
      wanted.target.numbers.map .int) (grantExists holder wanted.target) reply) :
    ∃ answer, reply.rows = [[.bool answer]] ∧
      (answer = true ↔ ∃ grant, holder.Holds store actor grant ∧ wanted.admits grant = true) := by
  obtain ⟨answer, hrows, hanswer⟩ := (((show_holder mirrors keyed holder).found fun _ _ hshows =>
    hshows.holds_query wanted actor).second fun _ hheld => hheld.2.1).answer h
  refine ⟨answer, hrows, hanswer.trans ?_⟩
  simp

omit keyed in
theorem mem_rows_visibilityOf {id : InstanceId}
    (h : Answers tables [.int id.client, .int id.object] visibilityOf reply) (row : Row) :
    row ∈ reply.rows ↔
      ∃ state, store.visibility.get? id = some state ∧ row = [.text state.text] := by
  have hrow (frame : Frame) (state : Visibility) (hshows : ShowsState frame (id, state)) :
      [Expr.bare "state"].map (Expr.value [.int id.client, .int id.object] frame) =
        [.text state.text] := by
    obtain ⟨label, record, rfl, hcells⟩ := hshows
    simp only [List.map_cons, List.map_nil, visibilityCells, List.cons.injEq, and_true] at hcells
    simp [Expr.value, hcells.2.2]
  have hrows := (((show_states mirrors).found fun _ _ hshows =>
    hshows.holds_instance id).second fun _ hstate => hstate.2).mem_rows h hrow row
  rw [hrows]
  simp

end Rows

section Decoding

theorem grantOfRow_grantRow (grant : Grant) :
    grantOfRow (grantRow grant) = .ok (grantRecord grant) := by
  obtain ⟨_, _, _, _, scope⟩ := grant
  cases scope <;> rfl

theorem grant_grantRecord (grant : Grant) : (grantRecord grant).grant = .ok grant := by
  rw [GrantRecord.grant, grantRecord, Scope.scope_columns]
  rfl

theorem grantRow_injective : Function.Injective grantRow := by
  intro grant other hrow
  have hread := grantOfRow_grantRow grant
  rw [hrow, grantOfRow_grantRow] at hread
  have hrecord : grantRecord other = grantRecord grant := Except.ok.inj hread
  have hgrant := grant_grantRecord grant
  rw [← hrecord, grant_grantRecord] at hgrant
  exact (Except.ok.inj hgrant).symm

/-- Rows made of grants are the rows of a list of these grants. -/
theorem rows_of_grants {rows : List Row} {P : Grant → Prop}
    (hrows : ∀ row, row ∈ rows ↔ ∃ grant, P grant ∧ row = grantRow grant) :
    ∃ grants : List Grant, rows = grants.map grantRow ∧ ∀ grant, grant ∈ grants ↔ P grant := by
  have hrange : rows ∈ Set.range (List.map grantRow) := by
    rw [Set.range_list_map]
    intro row hrow
    obtain ⟨grant, _, rfl⟩ := (hrows row).mp hrow
    exact ⟨grant, rfl⟩
  obtain ⟨grants, rfl⟩ := hrange
  refine ⟨grants, rfl, fun grant => ?_⟩
  rw [← List.mem_map_of_injective grantRow_injective, hrows]
  constructor
  · rintro ⟨other, hother, hrow⟩
    rw [grantRow_injective hrow]
    exact hother
  · intro hgrant
    exact ⟨grant, hgrant, rfl⟩

theorem first_of_rows {reply : Reply} {answer : Bool} (hrows : reply.rows = [[.bool answer]]) :
    (reply.first fun row => row.bool 0) = .ok answer := by
  rw [Reply.first, hrows]
  rfl

theorem mapM_grantOfRow (grants : List Grant) :
    (grants.map grantRow).mapM grantOfRow = .ok (grants.map grantRecord) := by
  have hdecode : grantOfRow ∘ grantRow = fun grant => pure (grantRecord grant) :=
    funext grantOfRow_grantRow
  rw [List.mapM_map, hdecode, List.mapM_pure]
  rfl

theorem mapM_grant (grants : List Grant) :
    (grants.map grantRecord).mapM GrantRecord.grant = .ok grants := by
  have hread : GrantRecord.grant ∘ grantRecord = fun grant => pure grant :=
    funext grant_grantRecord
  rw [List.mapM_map, hread, List.mapM_pure, List.map_id']
  rfl

/-- Where all rows tell the same, the first one tells it. -/
theorem first?_of_rows {α : Type} {decode : Row → Except DatabaseError α} {found : Option α}
    {reply : Reply} {cells : α → Row}
    (hrows : ∀ row, row ∈ reply.rows ↔ ∃ thing, found = some thing ∧ row = cells thing)
    (hdecode : ∀ thing, found = some thing → decode (cells thing) = .ok thing) :
    reply.first? decode = .ok found := by
  obtain ⟨rows, affected⟩ := reply
  cases rows with
  | nil =>
      cases found with
      | none => rfl
      | some thing => exact absurd ((hrows _).mpr ⟨thing, rfl, rfl⟩) List.not_mem_nil
  | cons row rest =>
      obtain ⟨thing, hfound, rfl⟩ := (hrows row).mp List.mem_cons_self
      have hfirst : Reply.first? decode ⟨cells thing :: rest, affected⟩ =
          (decode (cells thing)).map some := rfl
      rw [hfirst, hdecode thing hfound, hfound]
      rfl

end Decoding

section Runs

variable {σ α : Type} {partner : (command : Command) → σ → command.Answer × σ} {state : σ}
  {statement : Statement} {parameters : List Value} {reply : Reply}

theorem result_fetch {decode : Reply → Except DatabaseError α} {value : α}
    (hreply : (partner ⟨statement, parameters⟩ state).1 = .ok reply)
    (hdecode : decode reply = .ok value) :
    ((fetch statement parameters decode).run.run partner state).result = .ok value := by
  have hresult : ((fetch statement parameters decode).run.run partner state).result =
      (((partner ⟨statement, parameters⟩ state).1.bind decode).mapError .ofDatabase) := rfl
  rw [hresult, hreply, Except.bind, hdecode]
  rfl

/-- A listing sends one command; what the reply holds decides the rest. -/
theorem run_fetchGrants (statement : Statement) (parameters : List Value) :
    (fetchGrants statement parameters).run = .ask ⟨statement, parameters⟩ fun answer =>
      .done (((answer.bind (Reply.all grantOfRow)).mapError .ofDatabase).bind fun records =>
        records.mapM GrantRecord.grant) := by
  have hrest (records : Except StorageError (List GrantRecord)) :
      ExceptT.bindCont (fun records => ExceptT.mk (.done (records.mapM GrantRecord.grant)))
          records =
        (.done (records.bind fun records => records.mapM GrantRecord.grant) :
          Dialogue Command Command.Answer _) := by
    cases records with
    | error error => rfl
    | ok records => rfl
  exact congrArg (Dialogue.ask _) (funext fun answer => hrest _)

theorem result_fetchGrants {grants : List Grant}
    (hreply : (partner ⟨statement, parameters⟩ state).1 = .ok reply)
    (hrows : reply.rows = grants.map grantRow) :
    ((fetchGrants statement parameters).run.run partner state).result = .ok grants := by
  have hresult : ((fetchGrants statement parameters).run.run partner state).result =
      (((partner ⟨statement, parameters⟩ state).1.bind (Reply.all grantOfRow)).mapError
        .ofDatabase).bind fun records => records.mapM GrantRecord.grant := by
    rw [run_fetchGrants]
    rfl
  have hdecode : reply.all grantOfRow = .ok (grants.map grantRecord) := by
    rw [Reply.all, hrows, mapM_grantOfRow]
  rw [hresult, hreply, Except.bind, hdecode]
  exact mapM_grant grants

end Runs

end AccessGrants.Database
