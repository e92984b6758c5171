import AccessGrants.Database.Scope
import AccessGrants.Proofs.Sql.Meaning
import AccessGrants.Proofs.Store.Holding
import AccessGrants.Proofs.Store.Integrity

/-!
Tables that hold what a store holds. There is one table for each part of a
store, with one row for each row or link of the part, in any order and with any
further columns. A row of grants has no subject and no action; these stand in
the row of its template.
-/

namespace AccessGrants.Database

open Sql

/-- As far as these columns go, the table has one row for each of the things. -/
def Tabulates {α : Type} (tables : Tables) (table : String) (columns : List String)
    (things : List α) (cells : α → Row) : Prop :=
  ((tables table).map fun record => columns.map record).Perm (things.map cells)

def actorCells (actor : Actor) : Row :=
  [.int actor.id.value, .bool actor.active, .bool actor.superuser]

def linkCells {source target : Entity} (link : Link source target) : Row :=
  [.int link.source.value, .int link.target.value]

def templateCells (template : Template) : Row :=
  [.int template.id.value, .text template.subject, .text template.action,
    .bool template.dictionaryDefault, .bool template.perspectiveDefault]

def grantCells (grant : Grant) : Row :=
  .int grant.id.value :: .int grant.template.value :: grant.scope.columns.parameters

def visibilityCells (id : InstanceId) (state : Visibility) : Row :=
  [.int id.client, .int id.object, .text state.text]

/-- The tables hold the rows of the store and no others. -/
structure Mirrors (tables : Tables) (store : Store) : Prop where
  actors : Tabulates tables "actors" ["id", "active", "superuser"] store.actors.values actorCells
  sessions : Tabulates tables "sessions" ["id", "actor_id"] store.sessions.entries
    fun row => [.int row.1.value, .int row.2.value]
  organizations : Tabulates tables "organizations" ["id", "name"] store.organizations.entries
    fun row => [.int row.1.value, .text row.2]
  members : Tabulates tables "organization_members" ["organization_id", "actor_id"]
    store.members.toList linkCells
  templates : Tabulates tables "permission_templates"
    ["id", "subject", "action", "dictionary_default", "perspective_default"]
    store.templates.values templateCells
  grants : Tabulates tables "permission_grants"
    ["id", "template_id", "is_override", "subject_client_id", "subject_object_id"]
    store.grants.values grantCells
  actorGrants : Tabulates tables "actor_grants" ["actor_id", "grant_id"]
    store.actorGrants.toList linkCells
  organizationGrants : Tabulates tables "organization_grants" ["organization_id", "grant_id"]
    store.organizationGrants.toList linkCells
  visibility : Tabulates tables "subject_visibility" ["client_id", "object_id", "state"]
    store.visibility.entries fun row => visibilityCells row.1 row.2
  /-- The subject and the action of a grant are those of the row of its template. -/
  instantiated : store.Instantiated

section Tabulates

variable {α : Type} {tables : Tables} {table : String} {columns : List String} {things : List α}
  {cells : α → Row}

theorem Tabulates.thing (h : Tabulates tables table columns things cells) {record : Record}
    (hrecord : record ∈ tables table) : ∃ thing ∈ things, columns.map record = cells thing := by
  have hmem : columns.map record ∈ things.map cells :=
    h.mem_iff.mp (List.mem_map_of_mem (f := fun record => columns.map record) hrecord)
  obtain ⟨thing, hthing, hcells⟩ := List.mem_map.mp hmem
  exact ⟨thing, hthing, hcells.symm⟩

theorem Tabulates.record (h : Tabulates tables table columns things cells) {thing : α}
    (hthing : thing ∈ things) : ∃ record ∈ tables table, columns.map record = cells thing := by
  have hmem : cells thing ∈ (tables table).map fun record => columns.map record :=
    h.mem_iff.mpr (List.mem_map_of_mem hthing)
  exact List.mem_map.mp hmem

section Links

variable {source target : Entity} {links : List (Link source target)} {first second : String}

theorem Tabulates.link (h : Tabulates tables table [first, second] links linkCells)
    {record : Record} (hrecord : record ∈ tables table) :
    ∃ link ∈ links, record first = .int link.source.value ∧
      record second = .int link.target.value := by
  obtain ⟨link, hlink, hcells⟩ := h.thing hrecord
  simp only [List.map_cons, List.map_nil, linkCells, List.cons.injEq, and_true] at hcells
  exact ⟨link, hlink, hcells⟩

theorem Tabulates.linked (h : Tabulates tables table [first, second] links linkCells)
    {link : Link source target} (hlink : link ∈ links) :
    ∃ record ∈ tables table, record first = .int link.source.value ∧
      record second = .int link.target.value := by
  obtain ⟨record, hrecord, hcells⟩ := h.record hlink
  simp only [List.map_cons, List.map_nil, linkCells, List.cons.injEq, and_true] at hcells
  exact ⟨record, hrecord, hcells⟩

end Links

end Tabulates

/-- A row of grants and a row of templates tell of one grant. -/
structure Tells (grantRow templateRow : Record) (grant : Grant) : Prop where
  id : grantRow "id" = .int grant.id.value
  template : grantRow "template_id" = .int grant.template.value
  subject : templateRow "subject" = .text grant.subject
  action : templateRow "action" = .text grant.action
  isOverride : grantRow "is_override" = .bool grant.scope.columns.isOverride
  client : grantRow "subject_client_id" = .ofInt? grant.scope.columns.client
  object : grantRow "subject_object_id" = .ofInt? grant.scope.columns.object

theorem tells_of_cells {g t : Record} {grant : Grant} {template : Template}
    (hgrant : ["id", "template_id", "is_override", "subject_client_id",
      "subject_object_id"].map g = grantCells grant)
    (htemplate : ["id", "subject", "action", "dictionary_default",
      "perspective_default"].map t = templateCells template)
    (subject : grant.subject = template.subject) (action : grant.action = template.action) :
    Tells g t grant := by
  simp only [List.map_cons, List.map_nil, grantCells, ScopeColumns.parameters,
    List.cons.injEq, and_true] at hgrant
  simp only [List.map_cons, List.map_nil, templateCells, List.cons.injEq, and_true] at htemplate
  obtain ⟨hid, htemplateId, hisOverride, hclient, hobject⟩ := hgrant
  obtain ⟨_, hsubject, haction, _⟩ := htemplate
  exact ⟨hid, htemplateId, by rw [hsubject, subject], by rw [haction, action], hisOverride,
    hclient, hobject⟩

namespace Mirrors

variable {tables : Tables} {store : Store} {grant : Grant}

/-- Every row of grants tells, with the row of its template, of a stored grant. -/
theorem told (h : Mirrors tables store) (keyed : store.Keyed) {g t : Record}
    (hg : g ∈ tables "permission_grants") (ht : t ∈ tables "permission_templates")
    (hjoined : t "id" = g "template_id") :
    ∃ grant, store.grants.get? grant.id = some grant ∧ Tells g t grant := by
  obtain ⟨grant, hgrant, hgrantCells⟩ := h.grants.thing hg
  obtain ⟨template, htemplate, htemplateCells⟩ := h.templates.thing ht
  have hrow : store.grants.get? grant.id = some grant := by
    obtain ⟨id, hrow⟩ := Table.mem_values.mp hgrant
    rwa [keyed.grants id grant hrow]
  have htemplateRow : store.templates.get? template.id = some template := by
    obtain ⟨id, hrow⟩ := Table.mem_values.mp htemplate
    rwa [keyed.templates id template hrow]
  have hsame : template.id = grant.template := by
    have hkey : t "id" = .int template.id.value := (List.cons.inj htemplateCells).1
    have hreference : g "template_id" = .int grant.template.value :=
      (List.cons.inj (List.cons.inj hgrantCells).2).1
    rw [hkey, hreference, Value.int.injEq] at hjoined
    exact RowId.value_inj.mp hjoined
  obtain ⟨own, hown, hsubject, haction⟩ := h.instantiated grant.id grant hrow
  rw [← hsame, htemplateRow] at hown
  cases hown
  exact ⟨grant, hrow, tells_of_cells hgrantCells htemplateCells hsubject haction⟩

/-- Of every stored grant a row of grants tells, with the row of its template. -/
theorem tells (h : Mirrors tables store) (keyed : store.Keyed)
    (hrow : store.grants.get? grant.id = some grant) :
    ∃ g ∈ tables "permission_grants", ∃ t ∈ tables "permission_templates",
      t "id" = g "template_id" ∧ Tells g t grant := by
  obtain ⟨template, htemplateRow, hsubject, haction⟩ := h.instantiated grant.id grant hrow
  obtain ⟨g, hg, hgrantCells⟩ := h.grants.record (Table.mem_values.mpr ⟨_, hrow⟩)
  obtain ⟨t, ht, htemplateCells⟩ := h.templates.record (Table.mem_values.mpr ⟨_, htemplateRow⟩)
  have htells := tells_of_cells hgrantCells htemplateCells hsubject haction
  refine ⟨g, hg, t, ht, ?_, htells⟩
  have hkey : t "id" = .int template.id.value := (List.cons.inj htemplateCells).1
  rw [hkey, htells.template, keyed.templates _ _ htemplateRow]

end Mirrors

section Building

/-- A row with these columns and nothing else. -/
def recordOf (columns : List String) (cells : Row) : Record :=
  fun name => ((columns.zip cells).lookup name).getD .null

/-- Tables with the rows of a store, in the order of the store. -/
def tablesOf (store : Store) : Tables
  | "actors" => store.actors.values.map fun row =>
    recordOf ["id", "active", "superuser"] (actorCells row)
  | "sessions" => store.sessions.entries.map fun row =>
    recordOf ["id", "actor_id"] [.int row.1.value, .int row.2.value]
  | "organizations" => store.organizations.entries.map fun row =>
    recordOf ["id", "name"] [.int row.1.value, .text row.2]
  | "organization_members" => store.members.toList.map fun link =>
    recordOf ["organization_id", "actor_id"] (linkCells link)
  | "permission_templates" => store.templates.values.map fun row =>
    recordOf ["id", "subject", "action", "dictionary_default", "perspective_default"]
      (templateCells row)
  | "permission_grants" => store.grants.values.map fun row =>
    recordOf ["id", "template_id", "is_override", "subject_client_id", "subject_object_id"]
      (grantCells row)
  | "actor_grants" => store.actorGrants.toList.map fun link =>
    recordOf ["actor_id", "grant_id"] (linkCells link)
  | "organization_grants" => store.organizationGrants.toList.map fun link =>
    recordOf ["organization_id", "grant_id"] (linkCells link)
  | "subject_visibility" => store.visibility.entries.map fun row =>
    recordOf ["client_id", "object_id", "state"] (visibilityCells row.1 row.2)
  | _ => []

theorem tabulates_of_map {α : Type} {tables : Tables} {table : String} {columns : List String}
    {things : List α} {cells : α → Row}
    (htable : tables table = things.map fun thing => recordOf columns (cells thing))
    (hcells : ∀ thing, columns.map (recordOf columns (cells thing)) = cells thing) :
    Tabulates tables table columns things cells := by
  rw [Tabulates, htable, List.map_map]
  refine List.Perm.of_eq (List.map_congr_left fun thing _ => ?_)
  exact hcells thing

/-- Every store whose grants agree with their templates has tables that mirror it. -/
theorem mirrors_tablesOf {store : Store} (instantiated : store.Instantiated) :
    Mirrors (tablesOf store) store where
  actors := tabulates_of_map rfl fun _ => rfl
  sessions := tabulates_of_map rfl fun _ => rfl
  organizations := tabulates_of_map rfl fun _ => rfl
  members := tabulates_of_map rfl fun _ => rfl
  templates := tabulates_of_map rfl fun _ => rfl
  grants := tabulates_of_map rfl fun _ => rfl
  actorGrants := tabulates_of_map rfl fun _ => rfl
  organizationGrants := tabulates_of_map rfl fun _ => rfl
  visibility := tabulates_of_map rfl fun _ => rfl
  instantiated := instantiated

end Building

end AccessGrants.Database
