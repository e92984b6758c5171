import AccessGrants.Proofs.Database.Backends
import AccessGrants.Proofs.Sql.Multiplicity
import AccessGrants.Proofs.Store.Enumeration

/-!
The order of the database's listings. Over tables that mirror a store each grant
stands in one row and each link in another, so a listing of an actor's own grants
or of a subject type has no row twice; where several organizations hold a grant,
the query leaves out the repetitions. All listings are ordered by the numbers of
the grants, so each of them is the one list of its grants in that order.
-/

namespace AccessGrants.Database

open Sql

section Distinct

variable {α : Type} {tables : Tables} {table column : String} {columns : List String}
  {things : List α} {cells : α → Row}

/-- What no two things have in their first cells, no two rows of the table have. -/
theorem Tabulates.nodup_first {first : α → Value}
    (h : Tabulates tables table (column :: columns) things cells)
    (hfirst : ∀ thing, (cells thing).head? = some (first thing))
    (nodup : (things.map first).Nodup) :
    ((tables table).map fun record => record column).Nodup := by
  have hheads : (((tables table).map fun record => record column).map some).Perm
      ((things.map first).map some) := by
    have hperm := h.map List.head?
    rw [List.map_map, List.map_map] at hperm
    rw [List.map_map, List.map_map]
    refine hperm.trans (List.Perm.of_eq ?_)
    exact List.map_congr_left fun thing _ => hfirst thing
  have hsome : ((things.map first).map some).Nodup :=
    nodup.map (Option.some_injective Value)
  exact (hheads.nodup_iff.mpr hsome).of_map some

variable {store : Store} {kind : Entity} {ν : Type} {rows : AccessGrants.Table (RowId kind) ν}

/-- Rows that are stored under their numbers have different numbers. -/
theorem nodup_numbers {number : ν → RowId kind} (keyed : rows.All fun id row => number row = id) :
    (rows.values.map fun row => Value.int (number row).value).Nodup := by
  have hnumbers : (rows.values.map number).Nodup := by
    rw [Table.map_values_eq_keys keyed]
    exact rows.keys_nodup
  have hvalues := hnumbers.map (f := fun id : RowId kind => Value.int id.value) ?_
  · rwa [List.map_map] at hvalues
  · intro a b hsame
    exact RowId.value_inj.mp (Value.int.inj hsame)

variable (mirrors : Mirrors tables store) (keyed : store.Keyed)

include mirrors

theorem nodup_grantNumbers (keyed : store.Keyed) :
    ((tables "permission_grants").map fun record => record "id").Nodup :=
  mirrors.grants.nodup_first (fun _ => rfl) (nodup_numbers keyed.grants)

theorem nodup_templateNumbers (keyed : store.Keyed) :
    ((tables "permission_templates").map fun record => record "id").Nodup :=
  mirrors.templates.nodup_first (fun _ => rfl) (nodup_numbers keyed.templates)

theorem nodup_actorGrants :
    ((tables "actor_grants").map fun record => ["actor_id", "grant_id"].map record).Nodup := by
  have hlinks : (store.actorGrants.toList.map linkCells).Nodup := by
    refine (SortedSet.nodup_of_ascending store.actorGrants.ascending).map ?_
    rintro ⟨source, target⟩ ⟨source', target'⟩ hsame
    simpa [linkCells, RowId.value_inj] using hsame
  exact mirrors.actorGrants.nodup_iff.mpr hlinks

end Distinct

section Joining

variable {tables : Tables} {frames : List Frame} {name label column otherLabel : String}

theorem map_frames_table {κ : Type} (f : Record → κ) :
    ((table name label).frames tables).map (fun frame => f (frame.column label)) =
      (tables name).map f := by
  rw [Source.frames, List.map_map]
  refine List.map_congr_left fun record _ => ?_
  simp only [Function.comp_apply, Source.name, table, Option.getD_some, Frame.column_cons_self]

theorem lacks_frames_table {other : String} (hne : other ≠ label) :
    ∀ frame ∈ (table name label).frames tables, frame.Lacks other := by
  intro frame hframe
  obtain ⟨record, _, rfl⟩ := mem_frames_table.mp hframe
  exact Frame.lacks_singleton hne

/-- Rows that differ in the joined column do not stand beside the same frame. -/
theorem nodup_extend_join {κ : Type} {mark : Frame → κ} (parameters : List Value)
    (otherColumn : String)
    (distinct : ((tables name).map fun record => record column).Nodup)
    (different : otherLabel ≠ label) (lacks : ∀ frame ∈ frames, frame.Lacks label)
    (kept : ∀ frame record, mark (frame ++ [(label, record)]) = mark frame)
    (h : (frames.map mark).Nodup) :
    ((Join.extend tables parameters frames
      (join name label column otherLabel otherColumn)).map mark).Nodup := by
  refine Join.nodup_extend kept ?_ h
  intro frame hframe
  have hvalue {record : Record}
      (hholds : (join name label column otherLabel otherColumn).condition.Holds parameters
        (frame ++ [(label, record)])) : record column = frame.column otherLabel otherColumn := by
    have hequal := (Expr.holds_equal.mp hholds).1
    simp only [Expr.value] at hequal
    rwa [Frame.column_append_self (lacks frame hframe), Frame.column_append_of_ne different]
      at hequal
  refine (List.pairwise_map.mp distinct).imp ?_
  rintro record other hne ⟨hrecord, hother⟩
  exact hne ((hvalue hrecord).trans (hvalue hother).symm)

theorem lacks_extend_join {parameters : List Value} {otherColumn other : String}
    (hne : other ≠ label) (lacks : ∀ frame ∈ frames, frame.Lacks other) :
    ∀ frame ∈ Join.extend tables parameters frames
      (join name label column otherLabel otherColumn), frame.Lacks other := by
  intro frame hframe
  obtain ⟨before, hbefore, record, _, rfl, _⟩ := mem_extend_join.mp hframe
  exact Frame.lacks_append (lacks before hbefore) hne

end Joining

section Listings

variable {tables : Tables} {store : Store} {parameters : List Value} {reply : Reply}

/-- The rows of a listing whose keys are different are those of an ascending list. -/
theorem enumerates_of_rows {P : Grant → Prop} {distinct : Bool} {source : Source}
    {joins : List Join} {condition : Expr}
    (hmem : ∀ row, row ∈ reply.rows ↔ ∃ grant, P grant ∧ row = grantRow grant)
    (h : Answers tables parameters (selectGrants distinct source joins condition) reply)
    (nodup : ((Select.entries tables parameters ⟨distinct, grantColumns, source, joins,
      some condition, some (.column "g" "id")⟩).map Prod.fst).Nodup) :
    ∃ grants, reply.rows = grants.map grantRow ∧ Enumerates Grant.id grants P := by
  obtain ⟨grants, hrows, hgrants⟩ := rows_of_grants hmem
  refine ⟨grants, hrows, hgrants, ?_⟩
  obtain ⟨rows, affected⟩ := reply
  cases h with
  | select hyields =>
      have hkeys := hyields.pairwise_keys (fun row => row.headD .null) (fun _ => rfl) nodup
      rw [show rows = grants.map grantRow from hrows, List.map_map, List.pairwise_map] at hkeys
      rw [Ascending, List.pairwise_map]
      refine hkeys.imp ?_
      rintro first second ⟨hle, hne⟩
      have hnumbers : first.id.value.toInt ≤ second.id.value.toInt := by
        simpa [Value.atMost, Value.place, grantRow] using hle
      have hdifferent : first.id.value.toInt ≠ second.id.value.toInt := by
        intro hsame
        exact hne (congrArg Value.int (Int64.toInt_inj.mp hsame))
      have hlt : first.id.value < second.id.value := Int64.lt_iff_toInt_lt.mpr (by omega)
      exact (Std.compare_eq_lt.mpr hlt : compare first.id.value second.id.value = .lt)

variable (mirrors : Mirrors tables store) (keyed : store.Keyed)

include mirrors keyed

/-- A frame of an actor's own grants is told from the others by the link that it
is made from. -/
theorem nodup_ownLinks (parameters : List Value) :
    (([grantsOf "ag", templatesOfGrants].foldl (Join.extend tables parameters)
      ((table "actor_grants" "ag").frames tables)).map fun frame =>
        ["actor_id", "grant_id"].map (frame.column "ag")).Nodup := by
  have hkept {label : String} (hne : "ag" ≠ label) (frame : Frame) (record : Record) :
      ["actor_id", "grant_id"].map (Frame.column (frame ++ [(label, record)]) "ag") =
        ["actor_id", "grant_id"].map (frame.column "ag") := by
    rw [Frame.column_append_of_ne hne]
  have hlinks : (((table "actor_grants" "ag").frames tables).map fun frame =>
      ["actor_id", "grant_id"].map (frame.column "ag")).Nodup := by
    rw [map_frames_table fun record => ["actor_id", "grant_id"].map record]
    exact nodup_actorGrants mirrors
  have hgrants := nodup_extend_join parameters "grant_id" (nodup_grantNumbers mirrors keyed)
    (by decide : "ag" ≠ "g") (lacks_frames_table (by decide)) (hkept (by decide)) hlinks
  exact nodup_extend_join parameters "template_id" (nodup_templateNumbers mirrors keyed)
    (by decide) (lacks_extend_join (by decide) (lacks_frames_table (by decide)))
    (hkept (by decide)) hgrants

omit keyed mirrors in
/-- The link of such a frame leads to the grant beside it. -/
theorem grant_of_ownLink {frame : Frame}
    (h : frame ∈ [grantsOf "ag", templatesOfGrants].foldl (Join.extend tables parameters)
      ((table "actor_grants" "ag").frames tables)) :
    frame.column "ag" "grant_id" = frame.column "g" "id" := by
  obtain ⟨before, hbefore, template, _, rfl, _⟩ := mem_extend_join.mp h
  obtain ⟨_, _, grant, _, rfl, hgrant, _⟩ := mem_extend_join.mp hbefore
  have hag : "ag" ≠ "t" := by decide
  have hg : "g" ≠ "t" := by decide
  rw [Frame.column_append_of_ne hag, Frame.column_append_of_ne hg]
  exact hgrant.symm

theorem actorGrants_enumerates {actor : ActorId} {subject : Option String}
    (h : Answers tables [.int actor.value, .ofText? subject] actorGrants reply) :
    ∃ grants, reply.rows = grants.map grantRow ∧
      Enumerates Grant.id grants (Read.AsksFor store (.actorGrants actor subject)) := by
  refine enumerates_of_rows (fun row => ?_) h (Select.nodup_keys_of_found rfl ?_)
  · rw [mem_rows_actorGrants mirrors keyed h]
    simp [Read.AsksFor, Store.actorGrantsOf, Store.mem_heldByActor]
  · -- All the links that are found are the actor's, so they differ in their grants.
    refine List.Nodup.of_map (fun number : Value => [Value.int actor.value, number]) ?_
    rw [List.map_map]
    refine (congrArg List.Nodup (List.map_congr_left ?_)).mp
      ((nodup_ownLinks mirrors keyed _).sublist (List.filter_sublist.map _))
    intro frame hframe
    obtain ⟨hjoined, hchosen⟩ := List.mem_filter.mp hframe
    have hactor : frame.column "ag" "actor_id" = .int actor.value :=
      (holds_isParameter.mp (Expr.holds_both.mp (of_decide_eq_true hchosen)).1).1
    simp only [List.map_cons, List.map_nil, hactor, grant_of_ownLink hjoined]
    rfl

theorem organizationGrants_enumerates {actor : ActorId} {subject : Option String}
    (h : Answers tables [.int actor.value, .ofText? subject] organizationGrants reply) :
    ∃ grants, reply.rows = grants.map grantRow ∧
      Enumerates Grant.id grants (Read.AsksFor store (.organizationGrants actor subject)) := by
  refine enumerates_of_rows (fun row => ?_) h (Select.nodup_keys_of_distinct rfl ?_)
  · rw [mem_rows_organizationGrants mirrors keyed h]
    simp [Read.AsksFor, Store.organizationGrantsOf, Store.mem_heldByOrganizations]
  · intro frame hframe other hother hkey
    obtain ⟨held, hheld, _, hshows⟩ := (show_inherited mirrors keyed (by decide)
      (by decide)).sound frame (List.mem_of_mem_filter hframe)
    obtain ⟨held', hheld', _, hshows'⟩ := (show_inherited mirrors keyed (by decide)
      (by decide)).sound other (List.mem_of_mem_filter hother)
    have hnumber : Value.int held.2.id.value = .int held'.2.id.value :=
      hshows.id.symm.trans (hkey.trans hshows'.id)
    have hid : held.2.id = held'.2.id := RowId.value_inj.mp (Value.int.inj hnumber)
    have hsame : held.2 = held'.2 := by
      have hrow := (Store.Holds.stored (Or.inr hheld)).get? keyed
      rw [hid, (Store.Holds.stored (Or.inr hheld')).get? keyed] at hrow
      exact (Option.some.inj hrow).symm
    rw [hsame] at hshows
    exact (row_grantColumns hshows).trans (row_grantColumns hshows').symm

theorem subjectGrants_enumerates {subject : String} {target : Target}
    (h : Answers tables (.text subject :: target.numbers.map .int) (subjectGrants target) reply) :
    ∃ grants, reply.rows = grants.map grantRow ∧
      Enumerates Grant.id grants (Read.AsksFor store (.subjectGrants subject target)) := by
  refine enumerates_of_rows (fun row => ?_) h (Select.nodup_keys_of_found rfl ?_)
  · rw [mem_rows_subjectGrants mirrors keyed h]
    simp [Read.AsksFor, Store.mem_subjectGrants]
  · have hnumbers : (((table "permission_grants" "g").frames tables).map fun frame =>
        frame.column "g" "id").Nodup := by
      rw [map_frames_table fun record => record "id"]
      exact nodup_grantNumbers mirrors keyed
    have hdifferent : "g" ≠ "t" := by decide
    have hjoined := nodup_extend_join (.text subject :: target.numbers.map .int) "template_id"
      (nodup_templateNumbers mirrors keyed) hdifferent (lacks_frames_table hdifferent.symm)
      (fun frame record => by rw [Frame.column_append_of_ne hdifferent]) hnumbers
    exact hjoined.sublist (List.filter_sublist.map _)

end Listings

/-- Over a partner that replies to it, a listing is read as the grants of its reply. -/
theorem result_listing {σ : Type} {tables : Tables} {P : Grant → Prop} {statement : Statement}
    {parameters : List Value} {partner : (command : Command) → σ → command.Answer × σ} {state : σ}
    (enumerates : ∀ {reply : Reply}, Answers tables parameters statement reply →
      ∃ grants, reply.rows = grants.map grantRow ∧ Enumerates Grant.id grants P)
    (replies : ∃ reply, (partner ⟨statement, parameters⟩ state).1 = .ok reply ∧
      Answers tables parameters statement reply) :
    ∃ grants, ((fetchGrants statement parameters).run.run partner state).result = .ok grants ∧
      Enumerates Grant.id grants P := by
  obtain ⟨reply, hreply, hanswers⟩ := replies
  obtain ⟨grants, hrows, hgrants⟩ := enumerates hanswers
  exact ⟨grants, result_fetchGrants hreply hrows, hgrants⟩

/-- How the listings of a store compare with those of the database. -/
structure ListsLike (store : Store) (actor : ActorId) (subject : Option String) (type : String)
    (target : Target) : Prop where
  /-- An actor's own grants and those of a subject type are listed once and in order. -/
  own : Enumerates Grant.id (store.read (.actorGrants actor subject))
    (Read.AsksFor store (.actorGrants actor subject))
  stored : Enumerates Grant.id (store.read (.subjectGrants type target))
    (Read.AsksFor store (.subjectGrants type target))
  /-- No grant of the organizations is missing, and none is listed that is not theirs. -/
  inherited : ∀ grant, grant ∈ store.read (.organizationGrants actor subject) ↔
    Read.AsksFor store (.organizationGrants actor subject) grant
  /-- But a grant is listed as often as organizations of the actor hold it. -/
  repeated : ∀ grant, Read.AsksFor store (.organizationGrants actor subject) grant →
    (store.read (.organizationGrants actor subject)).count grant =
      (store.holdersOf actor grant).length
  /-- Each grant is listed once and in order exactly if the organizations hold
  their grants in order. -/
  ordered : Enumerates Grant.id (store.read (.organizationGrants actor subject))
      (Read.AsksFor store (.organizationGrants actor subject)) ↔
    store.HeldInOrder actor subject
  /-- The database lists every grant once and in order, so where the organizations
  do not hold their grants in order the two backends differ. -/
  served : ∀ {σ : Type} (tables : Tables)
    (partner : (command : Command) → σ → command.Answer × σ) (state : σ),
    Mirrors tables store → Serves tables partner →
      ((read (.actorGrants actor subject)).run.run partner state).result =
          .ok (store.read (.actorGrants actor subject)) ∧
        ((read (.subjectGrants type target)).run.run partner state).result =
          .ok (store.read (.subjectGrants type target)) ∧
        ∃ grants,
          ((read (.organizationGrants actor subject)).run.run partner state).result =
              .ok grants ∧
            Enumerates Grant.id grants (Read.AsksFor store (.organizationGrants actor subject)) ∧
            (grants = store.read (.organizationGrants actor subject) ↔
              store.HeldInOrder actor subject)

/-- The listings of every store that comes about by writes name what they are asked
for; those of an actor's own grants and of a subject type also do so once and in
order, as the database does, and that of the organizations only if the
organizations hold their grants in order. -/
theorem listings_once_unless_shared (writes : List Write) (actor : ActorId)
    (subject : Option String) (type : String) (target : Target) :
    ListsLike (Store.empty.after writes) actor subject type target := by
  have hkeyed := Store.keyed_after writes
  have hown := Store.actorGrantsOf_enumerates hkeyed actor subject
  have hstored := Store.subjectGrants_enumerates hkeyed type target
  have hordered := Store.organizationGrantsOf_enumerates_iff hkeyed actor subject
  refine ⟨hown, hstored, fun grant => Store.mem_organizationGrantsOf, ?_, hordered, ?_⟩
  · rintro grant ⟨hheld, hwanted⟩
    exact Store.count_organizationGrantsOf hkeyed (Store.Holds.stored (Or.inr hheld)) hwanted
  · intro σ tables partner state mirrors serves
    obtain ⟨own, hownRead, hownList⟩ := result_listing (actorGrants_enumerates mirrors hkeyed)
      (serves.replies (.actorGrants actor subject) rfl state)
    obtain ⟨stored, hstoredRead, hstoredList⟩ :=
      result_listing (subjectGrants_enumerates mirrors hkeyed)
        (serves.replies (.subjectGrants type target) rfl state)
    obtain ⟨inherited, hinheritedRead, hinheritedList⟩ :=
      result_listing (organizationGrants_enumerates mirrors hkeyed)
        (serves.replies (.organizationGrants actor subject) rfl state)
    rw [hownList.unique hown] at hownRead
    rw [hstoredList.unique hstored] at hstoredRead
    refine ⟨hownRead, hstoredRead, inherited, hinheritedRead, hinheritedList, ?_⟩
    rw [← hordered]
    constructor
    · intro hsame
      exact hsame ▸ hinheritedList
    · intro hlist
      exact hinheritedList.unique hlist

/-- Two organizations of one actor share a grant, and the later one also holds a
grant that was stored before. -/
def sharing : List Write :=
  [.createActor, .createOrganization "editors", .createOrganization "reviewers",
    .addMember ⟨2⟩ ⟨1⟩, .addMember ⟨3⟩ ⟨1⟩, .createTemplate "perspective" "edit" [],
    .createGrant ⟨4⟩ (.object 1), .createGrant ⟨4⟩ (.object 2), .assignToOrganization ⟨6⟩ ⟨2⟩,
    .assignToOrganization ⟨5⟩ ⟨3⟩, .assignToOrganization ⟨6⟩ ⟨3⟩]

/-- The database lists what the two organizations share once, and in order. -/
theorem shared_grant_listed_once_by_database :
    let store := Store.empty.after sharing
    let tables := tablesOf store
    let partner := fun (command : Command) (state : Unit) => (respond tables command, state)
    Mirrors tables store ∧ Serves tables partner ∧
      ListsLike store ⟨1⟩ none "perspective" (.single 2) ∧
      ((read (.organizationGrants ⟨1⟩ none)).run.run partner ()).result =
        .ok [⟨⟨5⟩, ⟨4⟩, "perspective", "edit", .object 1⟩,
          ⟨⟨6⟩, ⟨4⟩, "perspective", "edit", .object 2⟩] := by
  intro store tables partner
  have hbound : store.issued < Store.numberLimit := by decide
  have hmirrors : Mirrors tables store :=
    mirrors_tablesOf (Store.integral_after sharing hbound).instantiated
  have hserves : Serves tables partner := serves_respond tables
  have hlists := listings_once_unless_shared sharing ⟨1⟩ none "perspective" (.single 2)
  obtain ⟨_, _, grants, hread, hgrants, _⟩ := hlists.served tables partner () hmirrors hserves
  have hstore : store.read (.organizationGrants ⟨1⟩ none) =
      [⟨⟨6⟩, ⟨4⟩, "perspective", "edit", .object 2⟩, ⟨⟨5⟩, ⟨4⟩, "perspective", "edit", .object 1⟩,
        ⟨⟨6⟩, ⟨4⟩, "perspective", "edit", .object 2⟩] := by rfl
  have hexpected : Enumerates Grant.id [⟨⟨5⟩, ⟨4⟩, "perspective", "edit", .object 1⟩,
      ⟨⟨6⟩, ⟨4⟩, "perspective", "edit", .object 2⟩]
      (Read.AsksFor store (.organizationGrants ⟨1⟩ none)) := by
    refine ⟨fun grant => ?_, by decide⟩
    rw [← hlists.inherited, hstore]
    simp only [List.mem_cons, List.not_mem_nil, or_false]
    tauto
  refine ⟨hmirrors, hserves, hlists, ?_⟩
  rw [hread, hgrants.unique hexpected]

/-- The store lists the shared grant once for each of them, and out of order. -/
theorem shared_grant_listed_repeatedly :
    ((Store.empty.after sharing).read (.organizationGrants ⟨1⟩ none)).map Grant.id =
        [⟨6⟩, ⟨5⟩, ⟨6⟩] ∧
      ¬∀ (writes : List Write) (actor : ActorId) (subject : Option String),
        Enumerates Grant.id ((Store.empty.after writes).read (.organizationGrants actor subject))
          (Read.AsksFor (Store.empty.after writes) (.organizationGrants actor subject)) := by
  have hlisted : ((Store.empty.after sharing).read (.organizationGrants ⟨1⟩ none)).map Grant.id =
      [⟨6⟩, ⟨5⟩, ⟨6⟩] := by
    decide
  refine ⟨hlisted, ?_⟩
  intro henumerates
  have hascending := (henumerates sharing ⟨1⟩ none).ascending
  rw [hlisted] at hascending
  exact absurd hascending (by decide)

end AccessGrants.Database
