import AccessGrants.Database.Reading
import AccessGrants.Proofs.Database.Scope
import AccessGrants.Proofs.Database.Tables

/-!
What the reads find. Over tables that mirror a store, the joins of each query
put together what the store finds by following its links, and the condition of
the query chooses what the store chooses.
-/

namespace AccessGrants.Database

open Sql

section Joining

variable {tables : Tables} {parameters : List Value} {frame : Frame} {frames : List Frame}

theorem mem_frames_table {name label : String} :
    frame ∈ (table name label).frames tables ↔ ∃ record ∈ tables name, frame = [(label, record)] :=
  Source.mem_frames

theorem mem_extend_join {name label column otherLabel otherColumn : String} :
    frame ∈ (Join.extend tables parameters frames
        (join name label column otherLabel otherColumn)) ↔
      ∃ before ∈ frames, ∃ record ∈ tables name, frame = before ++ [(label, record)] ∧
        frame.column label column = frame.column otherLabel otherColumn ∧
          frame.column otherLabel otherColumn ≠ .null := by
  have hholds : (join name label column otherLabel otherColumn).condition.Holds parameters frame ↔
      frame.column label column = frame.column otherLabel otherColumn ∧
        frame.column otherLabel otherColumn ≠ .null :=
    Expr.holds_equal
  rw [Join.mem_extend, hholds]
  rfl

end Joining

/-- The frame shows a row of grants beside the row of its template. -/
def ShowsGrant (frame : Frame) (grant : Grant) : Prop :=
  Tells (frame.column "g") (frame.column "t") grant

/-- Beside a grant the frame shows under a label who holds it. -/
def ShowsHolder (label : String) (frame : Frame) (held : ActorId × Grant) : Prop :=
  frame.column label "actor_id" = .int held.1.value ∧ ShowsGrant frame held.2

/-- What the holder means in a store. -/
def Holder.Holds (store : Store) : Holder → ActorId → Grant → Prop
  | .actor => store.HoldsItself
  | .organizations => store.HoldsAsMember

/-- The frame shows who holds the grant with a number, and not yet the grant. -/
def ShowsNumber (holder label : String) (frame : Frame) (held : ActorId × GrantId) : Prop :=
  frame.column holder "actor_id" = .int held.1.value ∧
    frame.column label "grant_id" = .int held.2.value ∧ frame.Lacks "g" ∧ frame.Lacks "t"

/-- The frame shows a session beside the row of its actor. -/
def ShowsSession (frame : Frame) (opened : SessionId × Actor) : Prop :=
  frame.column "s" "id" = .int opened.1.value ∧
    ["id", "active", "superuser"].map (frame.column "a") = actorCells opened.2

/-- The frame is a row of states, whose columns are found without a label. -/
def ShowsState (frame : Frame) (row : InstanceId × Visibility) : Prop :=
  ∃ label record, frame = [(label, record)] ∧
    ["client_id", "object_id", "state"].map record = visibilityCells row.1 row.2

/-- What is seen in a frame after a row of grants and one of templates were put
behind it. -/
theorem columns_extended {before : Frame} {g t : Record} (hg : before.Lacks "g")
    (ht : before.Lacks "t") :
    Frame.column (before ++ [("g", g)] ++ [("t", t)]) "g" = g ∧
      Frame.column (before ++ [("g", g)] ++ [("t", t)]) "t" = t ∧
        ∀ label, label ≠ "g" → label ≠ "t" →
          Frame.column (before ++ [("g", g)] ++ [("t", t)]) label = before.column label := by
  have hgt : "g" ≠ "t" := by decide
  refine ⟨?_, ?_, ?_⟩
  · rw [Frame.column_append_of_ne hgt, Frame.column_append_self hg]
  · exact Frame.column_append_self (Frame.lacks_append ht hgt.symm)
  · intro label hnotGrant hnotTemplate
    rw [Frame.column_append_of_ne hnotTemplate, Frame.column_append_of_ne hnotGrant]

section Finding

variable {tables : Tables} {store : Store} {parameters : List Value} {frames : List Frame}
  {holder label : String}

theorem show_ownNumbers (mirrors : Mirrors tables store) (hg : "g" ≠ label) (ht : "t" ≠ label) :
    Show ((table "actor_grants" label).frames tables) (ShowsNumber label label)
      fun held => (⟨held.1, held.2⟩ : Link .actor .grant) ∈ store.actorGrants := by
  have hseen {r : Record} {held : ActorId × GrantId} (hactor : r "actor_id" = .int held.1.value)
      (hgrant : r "grant_id" = .int held.2.value) : ShowsNumber label label [(label, r)] held :=
    ⟨by simpa using hactor, by simpa using hgrant, Frame.lacks_singleton hg,
      Frame.lacks_singleton ht⟩
  constructor
  · intro frame hframe
    obtain ⟨r, hr, rfl⟩ := mem_frames_table.mp hframe
    obtain ⟨link, hlink, hactor, hgrant⟩ := mirrors.actorGrants.link hr
    exact ⟨(link.source, link.target), hlink, hseen hactor hgrant⟩
  · intro held hheld
    obtain ⟨r, hr, hactor, hgrant⟩ := mirrors.actorGrants.linked hheld
    exact ⟨[(label, r)], mem_frames_table.mpr ⟨r, hr, rfl⟩, hseen hactor hgrant⟩

theorem show_inheritedNumbers (mirrors : Mirrors tables store) (hm : "m" ≠ label)
    (hg : "g" ≠ label) (ht : "t" ≠ label) :
    Show (Join.extend tables parameters ((table "organization_members" "m").frames tables)
        (join "organization_grants" label "organization_id" "m" "organization_id"))
      (ShowsNumber "m" label)
      fun held => ∃ organization,
        (⟨organization, held.1⟩ : Link .organization .actor) ∈ store.members ∧
          (⟨organization, held.2⟩ : Link .organization .grant) ∈ store.organizationGrants := by
  have hcolumns {m r : Record} : Frame.column ([("m", m)] ++ [(label, r)]) "m" = m ∧
      Frame.column ([("m", m)] ++ [(label, r)]) label = r :=
    Frame.column_pair hm
  have hseen {m r : Record} {held : ActorId × GrantId} (hactor : m "actor_id" = .int held.1.value)
      (hgrant : r "grant_id" = .int held.2.value) :
      ShowsNumber "m" label ([("m", m)] ++ [(label, r)]) held := by
    refine ⟨?_, ?_, Frame.lacks_append (Frame.lacks_singleton (by decide)) hg,
      Frame.lacks_append (Frame.lacks_singleton (by decide)) ht⟩
    · rw [hcolumns.1, hactor]
    · rw [hcolumns.2, hgrant]
  constructor
  · intro frame hframe
    obtain ⟨_, hbefore, r, hr, rfl, hjoined, _⟩ := mem_extend_join.mp hframe
    obtain ⟨m, hmember, rfl⟩ := mem_frames_table.mp hbefore
    obtain ⟨member, hmem, horganization, hactor⟩ := mirrors.members.link hmember
    obtain ⟨link, hlink, howner, hgrant⟩ := mirrors.organizationGrants.link hr
    have hsame : link.source = member.source := by
      rw [hcolumns.1, hcolumns.2, horganization, howner, Value.int.injEq] at hjoined
      exact RowId.value_inj.mp hjoined
    refine ⟨(member.target, link.target), ⟨member.source, hmem, ?_⟩, hseen hactor hgrant⟩
    rw [← hsame]
    exact hlink
  · rintro held ⟨organization, hmember, hlink⟩
    obtain ⟨m, hrow, horganization, hactor⟩ := mirrors.members.linked hmember
    obtain ⟨r, hr, howner, hgrant⟩ := mirrors.organizationGrants.linked hlink
    refine ⟨[("m", m)] ++ [(label, r)], mem_extend_join.mpr ⟨[("m", m)],
      mem_frames_table.mpr ⟨m, hrow, rfl⟩, r, hr, rfl, ?_⟩, hseen hactor hgrant⟩
    rw [hcolumns.1, hcolumns.2, horganization, howner]
    exact ⟨rfl, Value.noConfusion⟩

variable (mirrors : Mirrors tables store) (keyed : store.Keyed)

include mirrors keyed

/-- Joining the grants and their templates puts a grant in the place of its number. -/
theorem show_grants {P : ActorId × GrantId → Prop} (h : Show frames (ShowsNumber holder label) P)
    (hholder : holder ≠ "g" ∧ holder ≠ "t") (hlabel : label ≠ "g" ∧ label ≠ "t") :
    Show ([grantsOf label, templatesOfGrants].foldl (Join.extend tables parameters) frames)
      (ShowsHolder holder)
      fun held => P (held.1, held.2.id) ∧ store.grants.get? held.2.id = some held.2 := by
  simp only [List.foldl_cons, List.foldl_nil, templatesOfGrants, grantsOf]
  have hseen {before : Frame} {g t : Record} {held : ActorId × Grant} (hg : before.Lacks "g")
      (ht : before.Lacks "t") (hactor : before.column holder "actor_id" = .int held.1.value)
      (htells : Tells g t held.2) :
      ShowsHolder holder (before ++ [("g", g)] ++ [("t", t)]) held := by
    obtain ⟨hcolumnGrant, hcolumnTemplate, hcolumns⟩ := columns_extended (g := g) (t := t) hg ht
    refine ⟨?_, ?_⟩
    · rw [hcolumns holder hholder.1 hholder.2]
      exact hactor
    · rw [ShowsGrant, hcolumnGrant, hcolumnTemplate]
      exact htells
  constructor
  · intro frame hframe
    obtain ⟨_, hextended, t, ht, rfl, htemplate, _⟩ := mem_extend_join.mp hframe
    obtain ⟨before, hbefore, g, hg, rfl, hgrant, _⟩ := mem_extend_join.mp hextended
    obtain ⟨held, hheld, hactor, hid, hlacksGrant, hlacksTemplate⟩ := h.sound before hbefore
    obtain ⟨hcolumnGrant, hcolumnTemplate, _⟩ :=
      columns_extended (g := g) (t := t) hlacksGrant hlacksTemplate
    rw [hcolumnTemplate, hcolumnGrant] at htemplate
    rw [Frame.column_append_self hlacksGrant, Frame.column_append_of_ne hlabel.1, hid] at hgrant
    obtain ⟨grant, hrow, htells⟩ := mirrors.told keyed hg ht htemplate
    have hnumber : grant.id = held.2 := by
      rw [htells.id, Value.int.injEq] at hgrant
      exact RowId.value_inj.mp hgrant
    exact ⟨(held.1, grant), ⟨hnumber ▸ hheld, hrow⟩, hseen hlacksGrant hlacksTemplate hactor htells⟩
  · rintro held ⟨hheld, hrow⟩
    obtain ⟨before, hbefore, hactor, hid, hlacksGrant, hlacksTemplate⟩ := h.complete _ hheld
    obtain ⟨g, hg, t, ht, htemplate, htells⟩ := mirrors.tells keyed hrow
    obtain ⟨hcolumnGrant, hcolumnTemplate, _⟩ :=
      columns_extended (g := g) (t := t) hlacksGrant hlacksTemplate
    refine ⟨before ++ [("g", g)] ++ [("t", t)], mem_extend_join.mpr
      ⟨before ++ [("g", g)], mem_extend_join.mpr ⟨before, hbefore, g, hg, rfl, ?_, ?_⟩, t, ht, rfl,
        ?_, ?_⟩, hseen hlacksGrant hlacksTemplate hactor htells⟩
    · rw [Frame.column_append_self hlacksGrant, Frame.column_append_of_ne hlabel.1, hid, htells.id]
    · rw [Frame.column_append_of_ne hlabel.1, hid]
      exact Value.noConfusion
    · rw [hcolumnTemplate, hcolumnGrant, htemplate]
    · rw [hcolumnGrant, htells.template]
      exact Value.noConfusion

theorem show_stored :
    Show ([templatesOfGrants].foldl (Join.extend tables parameters)
      ((table "permission_grants" "g").frames tables)) ShowsGrant store.StoresGrant := by
  simp only [List.foldl_cons, List.foldl_nil, templatesOfGrants]
  constructor
  · intro frame hframe
    obtain ⟨_, hbefore, t, ht, rfl, hjoined, _⟩ := mem_extend_join.mp hframe
    obtain ⟨g, hg, rfl⟩ := mem_frames_table.mp hbefore
    obtain ⟨grant, hrow, htells⟩ := mirrors.told keyed hg ht (by simpa using hjoined)
    exact ⟨grant, ⟨grant.id, hrow⟩, by simpa [ShowsGrant] using htells⟩
  · rintro grant ⟨id, hrow⟩
    rw [← keyed.grants id grant hrow] at hrow
    obtain ⟨g, hg, t, ht, hjoined, htells⟩ := mirrors.tells keyed hrow
    refine ⟨[("g", g)] ++ [("t", t)], mem_extend_join.mpr ?_, by simpa [ShowsGrant] using htells⟩
    refine ⟨_, mem_frames_table.mpr ⟨g, hg, rfl⟩, t, ht, rfl, by simpa using hjoined, ?_⟩
    simp [htells.template]

theorem show_held (hlabel : label ≠ "g" ∧ label ≠ "t") :
    Show ([grantsOf label, templatesOfGrants].foldl (Join.extend tables parameters)
      ((table "actor_grants" label).frames tables)) (ShowsHolder label)
      fun held => store.HoldsItself held.1 held.2 := by
  refine (show_grants mirrors keyed (show_ownNumbers mirrors hlabel.1.symm hlabel.2.symm) hlabel
    hlabel).congr fun held => ?_
  constructor
  · rintro ⟨hlink, hrow⟩
    exact ⟨held.2.id, hlink, hrow⟩
  · rintro ⟨id, hlink, hrow⟩
    have hid := keyed.grants id held.2 hrow
    rw [hid]
    exact ⟨hlink, hrow⟩

theorem show_inherited (hm : label ≠ "m") (hlabel : label ≠ "g" ∧ label ≠ "t") :
    Show ([join "organization_grants" label "organization_id" "m" "organization_id",
        grantsOf label, templatesOfGrants].foldl (Join.extend tables parameters)
      ((table "organization_members" "m").frames tables)) (ShowsHolder "m")
      fun held => store.HoldsAsMember held.1 held.2 := by
  refine (show_grants mirrors keyed (show_inheritedNumbers mirrors hm.symm hlabel.1.symm
    hlabel.2.symm) (by decide) hlabel).congr fun held => ?_
  constructor
  · rintro ⟨⟨organization, hmember, hlink⟩, hrow⟩
    exact ⟨organization, held.2.id, hmember, hlink, hrow⟩
  · rintro ⟨organization, id, hmember, hlink, hrow⟩
    have hid := keyed.grants id held.2 hrow
    rw [hid]
    exact ⟨⟨organization, hmember, hlink⟩, hrow⟩

theorem show_sessions :
    Show ([join "actors" "a" "id" "s" "actor_id"].foldl (Join.extend tables parameters)
      ((table "sessions" "s").frames tables)) ShowsSession
      fun opened => store.actorForSession opened.1 = some opened.2 := by
  simp only [List.foldl_cons, List.foldl_nil]
  have hcolumns {s a : Record} : Frame.column ([("s", s)] ++ [("a", a)]) "s" = s ∧
      Frame.column ([("s", s)] ++ [("a", a)]) "a" = a :=
    Frame.column_pair (by decide)
  have hseen {s a : Record} {opened : SessionId × Actor} (hsession : s "id" = .int opened.1.value)
      (hactor : ["id", "active", "superuser"].map a = actorCells opened.2) :
      ShowsSession ([("s", s)] ++ [("a", a)]) opened := by
    refine ⟨?_, ?_⟩
    · rw [hcolumns.1, hsession]
    · rw [hcolumns.2, hactor]
  constructor
  · intro frame hframe
    obtain ⟨_, hbefore, a, ha, rfl, hjoined, _⟩ := mem_extend_join.mp hframe
    obtain ⟨s, hs, rfl⟩ := mem_frames_table.mp hbefore
    obtain ⟨⟨session, id⟩, hsession, hsessionCells⟩ := mirrors.sessions.thing hs
    obtain ⟨actor, hactor, hactorCells⟩ := mirrors.actors.thing ha
    simp only [List.map_cons, List.map_nil, List.cons.injEq, and_true] at hsessionCells
    have hsame : actor.id = id := by
      have hid : a "id" = .int actor.id.value := (List.cons.inj hactorCells).1
      rw [hcolumns.1, hcolumns.2, hsessionCells.2, hid, Value.int.injEq] at hjoined
      exact RowId.value_inj.mp hjoined
    obtain ⟨key, hrow⟩ := Table.mem_values.mp hactor
    rw [← keyed.actors key actor hrow, hsame] at hrow
    refine ⟨(session, actor), ?_, hseen hsessionCells.1 hactorCells⟩
    exact Option.bind_eq_some_iff.mpr ⟨id, Table.get?_eq_some_iff.mpr hsession, hrow⟩
  · rintro ⟨session, actor⟩ hopened
    obtain ⟨id, hsession, hrow⟩ := Option.bind_eq_some_iff.mp hopened
    obtain ⟨s, hs, hsessionCells⟩ := mirrors.sessions.record (Table.get?_eq_some_iff.mp hsession)
    obtain ⟨a, ha, hactorCells⟩ := mirrors.actors.record (Table.mem_values.mpr ⟨id, hrow⟩)
    simp only [List.map_cons, List.map_nil, List.cons.injEq, and_true] at hsessionCells
    have hid : a "id" = .int actor.id.value := (List.cons.inj hactorCells).1
    refine ⟨[("s", s)] ++ [("a", a)], mem_extend_join.mpr ⟨[("s", s)],
      mem_frames_table.mpr ⟨s, hs, rfl⟩, a, ha, rfl, ?_, ?_⟩, hseen hsessionCells.1 hactorCells⟩
    · rw [hcolumns.1, hcolumns.2, hsessionCells.2, hid, keyed.actors id actor hrow]
    · rw [hcolumns.1, hsessionCells.2]
      exact Value.noConfusion

theorem show_holder (holder : Holder) :
    Show ((holder.joins ++ [templatesOfGrants]).foldl (Join.extend tables parameters)
      (holder.source.frames tables)) (ShowsHolder holder.label)
      fun held => holder.Holds store held.1 held.2 := by
  cases holder with
  | actor => exact show_held mirrors keyed (by decide)
  | organizations => exact show_inherited mirrors keyed (by decide) (by decide)

omit keyed in
theorem show_states :
    Show (([] : List Join).foldl (Join.extend tables parameters)
      (Source.frames tables ⟨"subject_visibility", none⟩)) ShowsState
      fun row => store.visibility.get? row.1 = some row.2 := by
  constructor
  · intro frame hframe
    obtain ⟨record, hrecord, rfl⟩ := Source.mem_frames.mp hframe
    obtain ⟨row, hrow, hcells⟩ := mirrors.visibility.thing hrecord
    exact ⟨row, Table.get?_eq_some_iff.mpr hrow, _, record, rfl, hcells⟩
  · intro row hrow
    obtain ⟨record, hrecord, hcells⟩ :=
      mirrors.visibility.record (Table.get?_eq_some_iff.mp hrow)
    exact ⟨_, Source.mem_frames.mpr ⟨record, hrecord, rfl⟩, _, record, rfl, hcells⟩

end Finding

section Choosing

variable {frame : Frame} {label : String} {more : List Value}

theorem holds_isParameter {column : String} {index : Nat} {parameters : List Value} :
    (isParameter label column index).Holds parameters frame ↔
      frame.column label column = (parameters[index - 1]?).getD .null ∧
        (parameters[index - 1]?).getD .null ≠ .null :=
  Expr.holds_equal

theorem ShowsHolder.holds_actor {held : ActorId × Grant} (h : ShowsHolder label frame held)
    (actor : ActorId) :
    (isParameter label "actor_id" 1).Holds (.int actor.value :: more) frame ↔ held.1 = actor := by
  simp [holds_isParameter, h.1, RowId.value_inj]

variable {grant : Grant}

/-- Without a subject the parameter is null and every grant is chosen. -/
theorem ShowsGrant.holds_ofSubject (h : ShowsGrant frame grant) (first : Value)
    (subject : Option String) :
    ofSubject.Holds (first :: .ofText? subject :: more) frame ↔
      Store.subjectMatches subject grant = true := by
  have hsubject : frame.column "t" "subject" = .text grant.subject := h.subject
  cases subject with
  | none => simp [ofSubject, Expr.value, Value.ofText?, Store.subjectMatches]
  | some subject =>
      simp [ofSubject, Expr.value, holds_isParameter, hsubject, Value.ofText?, Store.subjectMatches]

theorem ShowsGrant.holds_target (h : ShowsGrant frame grant) (target : Target)
    (before : List Value) :
    (target.condition (before.length + 1)).Holds (before ++ target.numbers.map .int) frame ↔
      grant.scope.covers target = true :=
  target.condition_holds_iff h.isOverride h.client h.object

theorem ShowsGrant.holds_subjectGrants (h : ShowsGrant frame grant) (subject : String)
    (target : Target) :
    (Expr.both (isParameter "t" "subject" 1) (target.condition 2)).Holds
        (.text subject :: target.numbers.map .int) frame ↔
      grant.subject = subject ∧ grant.scope.covers target = true := by
  have hsubject : frame.column "t" "subject" = .text grant.subject := h.subject
  have htarget := h.holds_target target [.text subject]
  simp only [List.length_singleton, Nat.reduceAdd, List.singleton_append] at htarget
  rw [Expr.holds_both, htarget]
  simp [holds_isParameter, hsubject]

theorem ShowsHolder.holds_query {held : ActorId × Grant} (h : ShowsHolder label frame held)
    (wanted : GrantQuery) (actor : ActorId) :
    (Expr.all (isParameter label "actor_id" 1) [isParameter "t" "subject" 2,
        isParameter "t" "action" 3, wanted.target.condition 4]).Holds
        ([.int actor.value, .text wanted.subject, .text wanted.action] ++
          wanted.target.numbers.map .int) frame ↔
      held.1 = actor ∧ wanted.admits held.2 = true := by
  have hgrant := h.2
  have hsubject : frame.column "t" "subject" = .text held.2.subject := hgrant.subject
  have haction : frame.column "t" "action" = .text held.2.action := hgrant.action
  have htarget := hgrant.holds_target wanted.target
    [.int actor.value, .text wanted.subject, .text wanted.action]
  simp only [List.length_cons, List.length_nil, Nat.reduceAdd] at htarget
  simp only [Expr.all, List.foldl_cons, List.foldl_nil, Expr.holds_both, htarget,
    holds_isParameter, h.1, hsubject, haction, GrantQuery.admits_iff]
  simp [RowId.value_inj, and_assoc]

theorem ShowsState.holds_instance {row : InstanceId × Visibility} (h : ShowsState frame row)
    (id : InstanceId) :
    (Expr.both (.equal (.bare "client_id") (.placeholder 1))
        (.equal (.bare "object_id") (.placeholder 2))).Holds
        [.int id.client, .int id.object] frame ↔
      row.1 = id := by
  obtain ⟨label, record, rfl, hcells⟩ := h
  simp only [List.map_cons, List.map_nil, visibilityCells, List.cons.injEq, and_true] at hcells
  simp [Expr.value, hcells.1, hcells.2.1, InstanceId.ext_iff]

end Choosing

end AccessGrants.Database
