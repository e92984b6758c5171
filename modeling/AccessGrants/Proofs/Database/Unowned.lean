import AccessGrants.Proofs.Database.Alone
import AccessGrants.Proofs.Database.Concurrent
import AccessGrants.Service

/-!
Provisioning for an owner who is not there. A store looks for the owner at the
outset. A database comes upon it when the first grant is to be linked: if there
is no default template it notices nothing, and if the grant of the first one has
no place in the index, that is the complaint. All the same nothing is written.
-/

namespace AccessGrants.Database

open Sql

/-- The length of the listing. -/
theorem Lists.length_eq {kind : InstanceKind} {tables : Tables} {templates : List Template}
    (lists : Lists kind tables templates) :
    templates.length = ((tables "permission_templates").filter fun record =>
      record (defaultColumn kind) = .bool true).length := by
  rw [← List.length_map templateCells, ← lists.read _ (Select.yields_rows ..), Select.rows,
    List.length_map, List.length_mergeSort, entries_listing, List.length_map]

namespace Provisioning

variable {order : Provisioning} {tables written : Tables}

/-- No actor with the number of the owner is there. -/
def Unowned (order : Provisioning) (tables : Tables) : Prop :=
  ∀ row ∈ tables "actors", row "id" ≠ .int order.owner.value

/-- What a provisioning comes to without an owner, by the listed templates. -/
inductive Misses (order : Provisioning) (tables : Tables) :
    List Template → Except StorageError (List Grant) → Prop where
  | unnoticed : Misses order tables [] (.ok [])
  | crowded {template : Template} {rest : List Template}
      (missing : ¬ Kept tables template.id order.scope)
      (twin : ∃ twin, order.scope.Twins twin ∧ Kept tables template.id twin) :
      Misses order tables (template :: rest)
        (.error (.duplicate ("grant of " ++ template.id.label)))
  | refused {template : Template} {rest : List Template} {grant : GrantId}
      (placed : Kept tables template.id order.scope ∨
        ¬ ∃ twin, order.scope.Twins twin ∧ Kept tables template.id twin) :
      Misses order tables (template :: rest)
        (.error (.notFound (grant.label ++ " or " ++ order.owner.label)))

section Links

/-- A link to nobody is in no table that satisfies its constraints. -/
theorem Unowned.unlinked (unowned : order.Unowned tables)
    (consistent : Consistent Schema.definitions tables) :
    ∀ row ∈ tables "actor_grants", row "actor_id" ≠ .int order.owner.value := by
  intro row hrow hid
  have hrefers := consistent.referred "actor_grants" row hrow
  rw [Refers, columnsOf_links] at hrefers
  have hgiven : row "actor_id" ≠ .null := by
    rw [hid]
    exact Value.noConfusion
  obtain ⟨actor, hactor, hsame⟩ :=
    hrefers _ (.head _) "actors" "id" (.tail _ (.head _)) hgiven
  exact unowned actor hactor (hsame.trans hid)

/-- A link of nobody is refused, and all is undone. -/
theorem ensures_link_unowned {done : List Grant} {left : List Template} {grant : Grant}
    (unowned : order.Unowned (tables.append written))
    (unlinked : ∀ row ∈ tables.append written "actor_grants",
      row "actor_id" ≠ .int order.owner.value) :
    Ensures Schema.definitions (order.talk (.asking (.link grant) done left))
      (.lone tables (.active written)) fun later =>
        later.result = .error (.notFound (grant.id.label ++ " or " ++ order.owner.label)) ∧
          later.audit = [] ∧ later.left = .lone tables .idle := by
  refine ensures_asking exists_handles_link fun answer after h => ?_
  obtain ⟨hread, rfl⟩ := handles_link_unowned unowned unlinked h
  rw [advance, hread]
  refine (ensures_undoing _).mono fun later hlater => ?_
  exact ⟨hlater.1, hlater.2.1, hlater.2.2.1⟩

end Links

section Rounds

variable {done : List Grant} {template : Template} {rest : List Template}

/-- The provisioning comes to one of these results, with nothing to audit and
with the tables as they were. -/
def Futile (order : Provisioning) (tables : Tables) (templates : List Template)
    (result : Except StorageError (List Grant)) (audit : List Event) (server : Server Unit) :
    Prop :=
  order.Misses tables templates result ∧ audit = [] ∧ server = .lone tables .idle

variable (consistent : Consistent Schema.definitions tables) (unowned : order.Unowned tables)

include consistent unowned

theorem futile_link {grant : Grant}
    (placed : Kept tables template.id order.scope ∨
      ¬ ∃ twin, order.scope.Twins twin ∧ Kept tables template.id twin)
    (bare : ∀ table, table ≠ "permission_grants" → written table = []) :
    Ensures Schema.definitions (order.talk (.asking (.link grant) done rest))
      (.lone tables (.active written)) fun later =>
        order.Futile tables (template :: rest) later.result later.audit later.left := by
  have hseen (table : String) (other : table ≠ "permission_grants") :
      tables.append written table = tables table := by
    rw [Tables.append, bare table other, List.append_nil]
  have hactors : order.Unowned (tables.append written) := by
    rw [Unowned, hseen "actors" (by simp)]
    exact unowned
  have hlinks := unowned.unlinked consistent
  rw [← hseen "actor_grants" (by simp)] at hlinks
  refine (ensures_link_unowned hactors hlinks).mono fun later hlater => ?_
  obtain ⟨hresult, haudit, hleft⟩ := hlater
  rw [Futile, hresult, haudit, hleft]
  exact ⟨.refused placed, rfl, rfl⟩

theorem futile_storing (room : (tables "permission_grants").length < 2 ^ 63 - 1)
    (stocked : Stocks tables template.id) (missing : ¬ Kept tables template.id order.scope) :
    Ensures Schema.definitions (order.talk (.asking (.store template) done rest))
      (.lone tables (.active .empty)) fun later =>
        order.Futile tables (template :: rest) later.result later.audit later.left := by
  have hquiet : tables.append .empty = tables := Tables.append_empty
  have hroom : (tables.append .empty "permission_grants").length < 2 ^ 63 - 1 := by
    rwa [hquiet]
  refine ensures_asking (exists_handles_insertion template.id order.scope hroom)
    fun answer after h => ?_
  have hstore := handles_store (by rwa [hquiet]) h
  rw [hquiet, occupied_iff consistent] at hstore
  rcases hstore with ⟨record, grant, _, _, hfree, _, hread, rfl⟩ | ⟨hoccupied, _, hread, rfl⟩
  · rw [advance, hread]
    refine futile_link consistent unowned (Or.inr fun twin => ?_) fun table other => ?_
    · obtain ⟨other, hother, hslot⟩ := (occupied_iff consistent).mpr (Or.inr twin)
      exact hfree other hother hslot
    · exact Function.update_of_ne other ..
  · rw [advance, hread]
    refine (ensures_undoing _).mono fun later hlater => ?_
    obtain ⟨hresult, haudit, hleft, _⟩ := hlater
    rw [Futile, hresult, haudit, hleft]
    exact ⟨.crowded missing (hoccupied.resolve_left missing), rfl, rfl⟩

theorem futile_turn (room : (tables "permission_grants").length < 2 ^ 63 - 1)
    (templates : List Template) (stocked : ∀ template ∈ templates, Stocks tables template.id) :
    Ensures Schema.definitions (order.talk (turn [] templates))
      (.lone tables (.active .empty)) fun later =>
        order.Futile tables templates later.result later.audit later.left := by
  have hquiet : tables.append .empty = tables := Tables.append_empty
  -- The first round fails at the latest when its grant is linked, so there is no induction.
  cases templates with
  | nil =>
      refine (ensures_committing [] []).mono fun later hlater => ?_
      obtain ⟨hresult, haudit, hleft, _⟩ := hlater
      rw [Futile, hresult, haudit, hleft, hquiet]
      exact ⟨.unnoticed, rfl, rfl⟩
  | cons template rest =>
      refine ensures_asking exists_handles_select fun answer after h => ?_
      have hnumbered : ∀ record ∈ tables.append .empty "permission_grants",
          ∃ number : GrantId, record "id" = .int number.value := by
        rw [hquiet]
        exact fun record hrecord => admits_grants_int (consistent.admitted _ record hrecord)
      have hfind := handles_find hnumbered h
      rw [hquiet] at hfind
      obtain ⟨rfl, ⟨hread, missing⟩ | ⟨kept, grant, hread⟩⟩ := hfind
      · rw [advance, hread]
        have hstocked := stocked template List.mem_cons_self
        exact futile_storing consistent unowned room hstocked missing
      · rw [advance, hread]
        exact futile_link consistent unowned (Or.inl kept) fun _ _ => rfl

/-- All of a provisioning without an owner, from its first statement. -/
theorem futile_talk (room : (tables "permission_grants").length < 2 ^ 63 - 1)
    {templates : List Template} (lists : Lists order.kind tables templates) :
    Ensures Schema.definitions (order.talk (.asking .begin [] [])) (.lone tables .idle)
      fun later => order.Futile tables templates later.result later.audit later.left :=
  ensures_opening lists fun _ _ => futile_turn consistent unowned room templates lists.stored

end Rounds

end Provisioning

open Provisioning

section Subjects

variable (kind : InstanceKind) (id : InstanceId) (owner : ActorId)

/-- The service provisions over a database by the one transaction, and reports
it if it succeeded. -/
theorem relay_provisionSubject :
    (Service.provisionSubject kind id owner).run.relay (fun order => (write order).run) =
      (write (.provisionDefaults kind id owner)).run >>= fun given =>
        match given with
        | .ok grants => .report (.provisioned kind id owner grants.length) (.done (.ok grants))
        | .error error => .done (.error (.storage error)) := by
  refine congrArg (Dialogue.bind (write (.provisionDefaults kind id owner)).run)
    (funext fun given => ?_)
  cases given with
  | ok grants => rfl
  | error error => rfl

/-- What the service says of a provisioning. -/
def Told (result : Except StorageError (List Grant)) (told : Except ServiceError (List Grant))
    (audit : List Event) : Prop :=
  match result with
  | .ok grants => told = .ok grants ∧ audit = [.provisioned kind id owner grants.length]
  | .error error => told = .error (.storage error) ∧ audit = []

/-- A store without the owner refuses. -/
theorem provisionDefaults_of_not_mem {store : Store} (missing : owner ∉ store.actors) :
    store.write (.provisionDefaults kind id owner) =
        (.error (.notFound owner.label), store) ∧
      (Service.provisionSubject kind id owner).run.run (fun write store => store.write write)
          store = ⟨.error (.storage (.notFound owner.label)), [], store⟩ := by
  have hwrite : store.write (.provisionDefaults kind id owner) =
      (.error (.notFound owner.label), store) := by
    rw [← Table.contains_iff, Bool.not_eq_true] at missing
    simp [Store.write, Store.provisionDefaults, missing]
  exact ⟨hwrite, by simp [Service.provisionSubject, Dialogue.run, hwrite]⟩

variable {kind owner} {tables : Tables} {store : Store}

theorem Mirrors.owner_not_mem (mirrors : Mirrors tables store) (keyed : store.Keyed)
    (unowned : ∀ row ∈ tables "actors", row "id" ≠ .int owner.value) : owner ∉ store.actors := by
  rintro ⟨actor, hactor⟩
  obtain ⟨row, hrow, hcells⟩ := mirrors.actors.record (Table.mem_values.mpr ⟨_, hactor⟩)
  have hid : row "id" = .int actor.id.value := (List.cons.inj hcells).1
  rw [keyed.actors _ _ hactor] at hid
  exact unowned row hrow hid

section Databases

variable (consistent : Consistent Schema.definitions tables)
  (unowned : ∀ row ∈ tables "actors", row "id" ≠ .int owner.value)
  (room : (tables "permission_grants").length < 2 ^ 63 - 1) {templates : List Template}
  (lists : Lists kind tables templates)

include consistent unowned room lists

theorem futile_provisionDefaults :
    Ensures Schema.definitions (write (.provisionDefaults kind id owner)).run
      (.lone tables .idle) fun left =>
        Futile ⟨kind, id, owner⟩ tables templates left.result left.audit left.left := by
  let order : Provisioning := ⟨kind, id, owner⟩
  have htalk : (write (.provisionDefaults kind id owner)).run =
      order.talk (.asking .begin [] []) := order.write_provisionDefaults
  rw [htalk]
  have hunowned : order.Unowned tables := unowned
  exact futile_talk consistent hunowned room lists

theorem told_provisionSubject :
    Ensures Schema.definitions
      ((Service.provisionSubject kind id owner).run.relay fun order => (write order).run)
      (.lone tables .idle) fun left => left.left = .lone tables .idle ∧
        ∃ result, Misses ⟨kind, id, owner⟩ tables templates result ∧
          Told kind id owner result left.result left.audit := by
  rw [relay_provisionSubject]
  have hfutile := futile_provisionDefaults id consistent unowned room lists
  refine Ensures.bind (hfutile.mono fun first futile => ?_)
  obtain ⟨result, audit, asked, server⟩ := first
  obtain ⟨hmisses, rfl, rfl⟩ := futile
  cases result with
  | ok grants => exact ⟨rfl, _, hmisses, rfl, rfl⟩
  | error error => exact ⟨rfl, _, hmisses, rfl, rfl⟩

end Databases

end Subjects

/-- Provisioning for an owner who is not there writes nothing. A store with the
content of the tables says that there is no owner. A database with one client,
which satisfies its constraints and has a number left, says so too if there is a
default template, unless it complains of the place of the first grant; without
a default template it reports a success. -/
theorem unowned_provisioning_writes_nothing (tables : Tables) (kind : InstanceKind)
    (id : InstanceId) (owner : ActorId) (consistent : Consistent Schema.definitions tables)
    (unowned : ∀ row ∈ tables "actors", row "id" ≠ .int owner.value)
    (room : (tables "permission_grants").length < 2 ^ 63 - 1) :
    (∀ store, Mirrors tables store → store.Keyed →
      store.write (.provisionDefaults kind id owner) =
          (.error (.notFound owner.label), store) ∧
        (Service.provisionSubject kind id owner).run.run (fun write store => store.write write)
            store = ⟨.error (.storage (.notFound owner.label)), [], store⟩) ∧
      ∃ templates, Lists kind tables templates ∧
        (Ensures Schema.definitions (write (.provisionDefaults kind id owner)).run
          (.lone tables .idle) fun left => left.left = .lone tables .idle ∧
            Misses ⟨kind, id, owner⟩ tables templates left.result) ∧
        Ensures Schema.definitions
          ((Service.provisionSubject kind id owner).run.relay fun order => (write order).run)
          (.lone tables .idle) fun left => left.left = .lone tables .idle ∧
            ∃ result, Misses ⟨kind, id, owner⟩ tables templates result ∧
              Told kind id owner result left.result left.audit := by
  obtain ⟨templates, hlists⟩ := exists_lists consistent kind
  refine ⟨fun store mirrors keyed => ?_, templates, hlists, ?_, ?_⟩
  · exact provisionDefaults_of_not_mem kind id owner (mirrors.owner_not_mem keyed unowned)
  · have hfutile := futile_provisionDefaults id consistent unowned room hlists
    exact hfutile.mono fun left futile => ⟨futile.2.2, futile.1⟩
  · exact told_provisionSubject id consistent unowned room hlists

theorem unowned_sparse : ∀ row ∈ sparse "actors", row "id" ≠ .int 7 := by
  intro row hrow
  rw [List.mem_singleton.mp hrow]
  decide

theorem not_kept_sparse {template : TemplateId} {scope : Scope} : ¬ Kept sparse template scope :=
  fun ⟨_, hnone, _⟩ => absurd hnone List.not_mem_nil

/-- On the small database the one default template shows that there is no owner. -/
theorem sparse_provisioning_is_refused : Consistent Schema.definitions sparse ∧
    (∀ row ∈ sparse "actors", row "id" ≠ .int 7) ∧
    Ensures Schema.definitions
      ((Service.provisionSubject .perspective ⟨9, 1⟩ ⟨7⟩).run.relay fun order =>
        (write order).run)
      (.lone sparse .idle) fun left => left.left = .lone sparse .idle ∧ left.audit = [] ∧
        ∃ what, left.result = .error (.storage (.notFound what)) := by
  refine ⟨consistent_sparse, unowned_sparse, ?_⟩
  obtain ⟨_, templates, hlists, _, hsubject⟩ := unowned_provisioning_writes_nothing sparse
    .perspective ⟨9, 1⟩ ⟨7⟩ consistent_sparse unowned_sparse (by decide)
  have hlength : templates.length = 1 := hlists.length_eq
  refine hsubject.mono fun left hleft => ?_
  obtain ⟨hserver, result, hmisses, htold⟩ := hleft
  cases hmisses with
  | unnoticed => cases hlength
  | crowded _ twin =>
      obtain ⟨_, _, hkept⟩ := twin
      exact absurd hkept not_kept_sparse
  | refused => exact ⟨hserver, htold.2, _, htold.1⟩

/-- It is not so that an owner who is not there is always refused: the small
database has no default templates for dictionaries, and there a provisioning of
one is neither refused nor kept out of the audit trail. -/
theorem unowned_provisioning_may_succeed : Consistent Schema.definitions sparse ∧
    (∀ row ∈ sparse "actors", row "id" ≠ .int 7) ∧
    (¬ Ensures Schema.definitions (write (.provisionDefaults .dictionary ⟨9, 1⟩ ⟨7⟩)).run
      (.lone sparse .idle) fun left => ∃ what, left.result = .error (.notFound what)) ∧
    ¬ Ensures Schema.definitions
      ((Service.provisionSubject .dictionary ⟨9, 1⟩ ⟨7⟩).run.relay fun order =>
        (write order).run)
      (.lone sparse .idle) fun left => left.audit = [] := by
  obtain ⟨templates, hlists⟩ := exists_lists consistent_sparse .dictionary
  have hlength : templates.length = 0 := hlists.length_eq
  obtain rfl := List.length_eq_zero_iff.mp hlength
  have hroom : (sparse "permission_grants").length < 2 ^ 63 - 1 := by decide
  refine ⟨consistent_sparse, unowned_sparse, fun promised => ?_, fun promised => ?_⟩
  · have hfutile := futile_provisionDefaults ⟨9, 1⟩ consistent_sparse unowned_sparse hroom hlists
    obtain ⟨left, ⟨what, hrefused⟩, hmisses, _⟩ := (promised.and hfutile).exists_left
    rw [hrefused] at hmisses
    cases hmisses
  · have htold := told_provisionSubject ⟨9, 1⟩ consistent_sparse unowned_sparse hroom hlists
    obtain ⟨left, hsilent, _, result, hmisses, hsaid⟩ := (promised.and htold).exists_left
    cases hmisses
    rw [hsaid.2] at hsilent
    cases hsilent

end AccessGrants.Database
