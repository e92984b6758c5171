import AccessGrants.Database.Writing
import AccessGrants.Proofs.Database.Slot
import AccessGrants.Proofs.Database.Tables
import Mathlib.Data.Set.List

/-!
The listing of the default templates. The templates of a consistent database are
told apart by their numbers, so there is one order in which they can be listed,
and every row of the listing can be read.
-/

namespace AccessGrants.Database

open Sql

/-- The default templates of the kind, by their numbers. -/
def listing (kind : InstanceKind) : Select :=
  ⟨false, templateColumns.map .bare, ⟨"permission_templates", none⟩, [],
    some (.bare (defaultColumn kind)), some (.bare "id")⟩

/-- Every listing of the default templates is read as these. -/
structure Lists (kind : InstanceKind) (tables : Tables) (templates : List Template) : Prop where
  read : ∀ rows, (listing kind).Yields tables [] rows → rows = templates.map templateCells
  stored : ∀ template ∈ templates, ∃ record ∈ tables "permission_templates",
    record "id" = .int template.id.value
  nodup : (templates.map Template.id).Nodup
  short : templates.length ≤ (tables "permission_templates").length

section Listing

variable {kind : InstanceKind} {tables : Tables} {templates : List Template} {record other : Record}

theorem mapM_templateOfRow (templates : List Template) :
    (templates.map templateCells).mapM templateOfRow = .ok templates := by
  have hdecode : templateOfRow ∘ templateCells = pure := funext fun _ => rfl
  rw [List.mapM_map, hdecode, List.mapM_pure, List.map_id']
  rfl

theorem entries_listing : (listing kind).entries tables [] =
    ((tables "permission_templates").filter fun record =>
      record (defaultColumn kind) = .bool true).map fun record =>
        (record "id", templateColumns.map record) := by
  simp only [Select.entries, Select.found, Select.joined, listing, Source.frames, List.foldl_nil,
    List.filter_map, List.map_map]
  rfl

/-- The listing looks at no other table. -/
theorem Lists.congr {others : Tables} (h : Lists kind tables templates)
    (same : others "permission_templates" = tables "permission_templates") :
    Lists kind others templates where
  read := by
    intro rows hyields
    refine h.read rows ?_
    rw [Select.Yields, entries_listing] at hyields ⊢
    rwa [same] at hyields
  stored := by
    rw [same]
    exact h.stored
  nodup := h.nodup
  short := by
    rw [same]
    exact h.short

theorem exists_template_of_admits
    (admitted : Admits Schema.definitions "permission_templates" record) :
    ∃ template : Template, record "id" = .int template.id.value ∧
      templateColumns.map record = templateCells template := by
  have hcolumns : columnsOf Schema.definitions "permission_templates" =
      [⟨"id", .serial, [.primaryKey]⟩, ⟨"subject", .plain .text, [.notNull]⟩,
        ⟨"action", .plain .text, [.notNull]⟩,
        ⟨"dictionary_default", .plain .boolean, [.notNull, .default "FALSE"]⟩,
        ⟨"perspective_default", .plain .boolean, [.notNull, .default "FALSE"]⟩] := by
    decide
  have htype {name : String} {type : StorageType} {rules : List ColumnRule} {own : ColumnType}
      (column : ⟨name, type, rules⟩ ∈ columnsOf Schema.definitions "permission_templates")
      (hown : type.valueType? = some own) (given : rules.any ColumnRule.forbidsNull = true) :=
    admitted.columnType? column hown given
  rw [hcolumns] at htype
  obtain ⟨id, hid⟩ := Value.columnType?_eq_bigint.mp (htype (.head _) rfl rfl)
  obtain ⟨subject, hsubject⟩ := Value.columnType?_eq_text.mp (htype (.tail _ (.head _)) rfl rfl)
  obtain ⟨action, haction⟩ :=
    Value.columnType?_eq_text.mp (htype (.tail _ (.tail _ (.head _))) rfl rfl)
  obtain ⟨dictionary, hdictionary⟩ :=
    Value.columnType?_eq_boolean.mp (htype (.tail _ (.tail _ (.tail _ (.head _)))) rfl rfl)
  obtain ⟨perspective, hperspective⟩ := Value.columnType?_eq_boolean.mp
    (htype (.tail _ (.tail _ (.tail _ (.tail _ (.head _))))) rfl rfl)
  refine ⟨⟨⟨id⟩, subject, action, dictionary, perspective⟩, hid, ?_⟩
  simp [templateColumns, templateCells, hid, hsubject, haction, hdictionary, hperspective]

/-- The entry of a template in the listing: its number, and its row. -/
def templateEntry (template : Template) : Value × Row :=
  (.int template.id.value, templateCells template)

/-- The numbers tell the rows of templates apart. -/
theorem nodup_entries_listing (consistent : Consistent Schema.definitions tables) :
    (((listing kind).entries tables []).map Prod.fst).Nodup := by
  rw [entries_listing, List.map_map, List.Nodup, List.pairwise_map]
  refine List.Pairwise.filter _ ((consistent.distinct "permission_templates").imp_of_mem ?_)
  intro record other hrecord _ hapart hsame
  obtain ⟨template, hid, _⟩ := exists_template_of_admits (consistent.admitted _ record hrecord)
  refine hapart ⟨[.bare "id"], by decide, fun e he => ?_⟩
  rw [List.mem_singleton.mp he]
  refine ⟨hsame, ?_⟩
  change record "id" ≠ .null
  rw [hid]
  simp

theorem exists_template_of_entry (consistent : Consistent Schema.definitions tables)
    {entry : Value × Row} (h : entry ∈ (listing kind).entries tables []) :
    ∃ template, entry = templateEntry template ∧
      ∃ record ∈ tables "permission_templates", record "id" = .int template.id.value := by
  rw [entries_listing] at h
  obtain ⟨record, hrecord, rfl⟩ := List.mem_map.mp h
  have htable := List.mem_of_mem_filter hrecord
  obtain ⟨template, hid, hcells⟩ := exists_template_of_admits (consistent.admitted _ record htable)
  exact ⟨template, by rw [templateEntry, hid, hcells], record, htable, hid⟩

/-- No two entries are as good as each other in the order of the listing. -/
theorem entry_eq_of_atMost (consistent : Consistent Schema.definitions tables) :
    ∀ first ∈ (listing kind).entries tables [], ∀ second ∈ (listing kind).entries tables [],
      first.1.atMost second.1 = true → second.1.atMost first.1 = true → first = second := by
  intro first hfirst second hsecond le ge
  apply List.inj_on_of_nodup_map (nodup_entries_listing consistent) hfirst hsecond
  obtain ⟨_, rfl, _⟩ := exists_template_of_entry consistent hfirst
  obtain ⟨_, rfl, _⟩ := exists_template_of_entry consistent hsecond
  exact congrArg Value.int (Value.int_eq_of_atMost le ge)

theorem exists_lists (consistent : Consistent Schema.definitions tables) (kind : InstanceKind) :
    ∃ templates, Lists kind tables templates := by
  set entries := (listing kind).entries tables [] with hentries
  have hperm := List.mergeSort_perm entries fun first second => first.1.atMost second.1
  obtain ⟨templates, htemplates⟩ : ∃ templates, List.map templateEntry templates =
      entries.mergeSort fun first second => first.1.atMost second.1 := by
    rw [← Set.mem_range, Set.range_list_map]
    intro entry hentry
    obtain ⟨template, heq, _⟩ := exists_template_of_entry consistent (hperm.mem_iff.mp hentry)
    exact ⟨template, heq.symm⟩
  refine ⟨templates, ?_, ?_, ?_, ?_⟩
  · intro rows hyields
    rw [hyields.eq_rows (entry_eq_of_atMost consistent), Select.rows, ← htemplates, List.map_map]
    rfl
  · intro template htemplate
    have hentry : templateEntry template ∈ entries := by
      rw [← hperm.mem_iff, ← htemplates]
      exact List.mem_map_of_mem htemplate
    obtain ⟨own, heq, record, hrecord, hid⟩ := exists_template_of_entry consistent hentry
    rw [templateEntry, templateEntry, Prod.mk.injEq] at heq
    exact ⟨record, hrecord, hid.trans heq.1.symm⟩
  · have hnodup := ((hperm.map Prod.fst).nodup_iff).mpr (nodup_entries_listing consistent)
    rw [← htemplates, List.map_map] at hnodup
    apply List.Nodup.of_map fun id : TemplateId => Value.int id.value
    rwa [List.map_map]
  · have hlength := hperm.length_eq
    rw [← htemplates, List.length_map] at hlength
    rw [hlength, hentries, entries_listing, List.length_map]
    exact List.length_filter_le ..

end Listing

end AccessGrants.Database
