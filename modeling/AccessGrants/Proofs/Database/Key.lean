import AccessGrants.Proofs.Database.Columns
import AccessGrants.Proofs.Database.Statements
import AccessGrants.Proofs.Sql.Client

/-!
The key of a grant in the unique index. Null stands for the number minus one in
it, so a template has one key for two of its scopes: that of an object alone,
and that of the same object with the client minus one. All other scopes are told
apart, and a grant is inserted unless its scope or the twin of its scope is
taken.
-/

namespace AccessGrants

/-- The scopes are of one object, alone and with the client minus one. -/
def Scope.Twins (scope other : Scope) : Prop :=
  ∃ object : Int64, scope = .object object ∧ other = .composite ⟨-1, object⟩ ∨
    scope = .composite ⟨-1, object⟩ ∧ other = .object object

theorem Scope.columns_injective {scope other : Scope} (h : scope.columns = other.columns) :
    scope = other := by
  have hread := scope.scope_columns
  rw [h, other.scope_columns] at hread
  exact (Except.ok.inj hread).symm

namespace Database

open Sql

section Keys

variable {template kept : TemplateId} {scope other : Scope} {record : Record}

/-- Where the unique index keeps the grant of a template for a scope. -/
def keyOf (template : TemplateId) (scope : Scope) : List Value :=
  slotOf (recordOf ("template_id" :: scopeNames)
    (.int template.value :: scope.columns.parameters))

theorem keyOf_eq : keyOf template scope =
    [.int template.value, .bool scope.columns.isOverride,
      .coalesce (.ofInt? scope.columns.client) (.int (-1)),
      .coalesce (.ofInt? scope.columns.object) (.int (-1))] := rfl

theorem null_not_mem_keyOf : .null ∉ keyOf template scope := by
  have hcoalesce (n : Option Int64) : Value.coalesce (.ofInt? n) (.int (-1)) ≠ .null := by
    cases n <;> simp [Value.ofInt?, Value.coalesce]
  rw [keyOf_eq]
  simp [(hcoalesce _).symm]

/-- The key tells everything apart but twins. -/
theorem keyOf_eq_iff :
    keyOf template scope = keyOf kept other ↔
      template = kept ∧ (scope = other ∨ scope.Twins other) := by
  have hid : template = kept ↔ template.value = kept.value := RowId.value_inj.symm
  rw [keyOf_eq, keyOf_eq, hid]
  cases scope <;> cases other <;>
    simp [Scope.columns, Value.ofInt?, Value.coalesce, Scope.Twins, InstanceId.ext_iff]
  -- What is left is an object alone beside a composite scope.
  exact fun _ => and_congr eq_comm eq_comm

theorem Keeps.slotOf (h : Keeps template scope record) : slotOf record = keyOf template scope := by
  rw [slotOf_eq, h.template, h.isOverride, h.client, h.object, keyOf_eq]

theorem Keeps.unique (h : Keeps template scope record) (h' : Keeps kept other record) :
    template = kept ∧ scope = other := by
  have hnumber {m n : Option Int64} (hsame : Value.ofInt? m = .ofInt? n) : m = n := by
    cases m <;> cases n <;> simp_all [Value.ofInt?]
  have htemplate := Value.int.inj (h.template.symm.trans h'.template)
  have hoverride := Value.bool.inj (h.isOverride.symm.trans h'.isOverride)
  have hclient := hnumber (h.client.symm.trans h'.client)
  have hobject := hnumber (h.object.symm.trans h'.object)
  refine ⟨RowId.value_inj.mp htemplate, Scope.columns_injective ?_⟩
  calc scope.columns
      = ⟨scope.columns.isOverride, scope.columns.client, scope.columns.object⟩ := rfl
    _ = other.columns := by rw [hoverride, hclient, hobject]

/-- In the slot of a grant is a grant for the scope or one for its twin. -/
theorem slotOf_eq_keyOf_iff (admitted : Admits Schema.definitions "permission_grants" record) :
    Database.slotOf record = keyOf template scope ↔
      Keeps template scope record ∨ ∃ twin, scope.Twins twin ∧ Keeps template twin record := by
  obtain ⟨_, own, kept, _, hkeeps⟩ := exists_keeps_of_admits admitted
  rw [hkeeps.slotOf, eq_comm, keyOf_eq_iff]
  constructor
  · rintro ⟨rfl, rfl | twins⟩
    · exact Or.inl hkeeps
    · exact Or.inr ⟨kept, twins, hkeeps⟩
  · rintro (hown | ⟨twin, twins, hown⟩)
    · obtain ⟨rfl, rfl⟩ := hown.unique hkeeps
      exact ⟨rfl, Or.inl rfl⟩
    · obtain ⟨rfl, rfl⟩ := hown.unique hkeeps
      exact ⟨rfl, Or.inr twins⟩

end Keys

/-- The tables have a grant of the template for the scope. -/
def Kept (tables : Tables) (template : TemplateId) (scope : Scope) : Prop :=
  ∃ record ∈ tables "permission_grants", Keeps template scope record

section Insertions

variable {tables written : Tables} {template : TemplateId} {scope : Scope}
  {answer : Except DatabaseError Reply} {after : Server Unit}

def insertion (template : TemplateId) (scope : Scope) : Command :=
  ⟨insertGrant, .int template.value :: scope.columns.parameters⟩

theorem Provisioning.command_insertion {order : Provisioning} {template : Template} :
    order.command (.store template) = insertion template.id order.scope := rfl

/-- Inserting a grant is refused if its place in the index is taken, and for no
other reason. -/
theorem handles_insertion
    (there : ∃ row ∈ tables.append written "permission_templates", row "id" = .int template.value)
    (h : Handles Schema.definitions (.lone tables (.active written)) (insertion template scope)
      answer after) :
    (∃ record grant, Keeps template scope record ∧ record "id" = .int grant ∧
        (∀ other ∈ tables.append written "permission_grants",
          slotOf other ≠ keyOf template scope) ∧
        answer = .ok ⟨[[.int grant]], 1⟩ ∧
          after = .lone tables (.active (written.add "permission_grants" record))) ∨
      (∃ other ∈ tables.append written "permission_grants",
          slotOf other = keyOf template scope) ∧
        (∃ text, answer = .error (.rejected DatabaseError.uniqueViolation text)) ∧
          after = .lone tables .failed := by
  obtain ⟨record, makes, settles⟩ := handles_insert.mp h
  obtain ⟨hkeeps, ⟨grant, hid⟩, hfresh⟩ := makes_keeps makes
  obtain ⟨row, hrow, hsame⟩ := there
  have hcollide {other : Record} (hother : other ∈ tables.append written "permission_grants") :
      Collide Schema.definitions "permission_grants" record other ↔
        slotOf other = keyOf template scope := by
    rw [collide_grants_iff, hkeeps.slotOf]
    constructor
    · rintro (⟨hnumber, _⟩ | ⟨hslot, _⟩)
      · exact absurd hnumber.symm (hfresh other (Server.stores_active.mpr hother))
      · exact hslot.symm
    · exact fun hslot => Or.inr ⟨hslot.symm, null_not_mem_keyOf⟩
  rcases settles.cases_of_fit (hkeeps.admits hid) (hkeeps.refers hrow hsame) with
    ⟨rfl, rfl, free⟩ | ⟨other, hother, collide, ⟨ignores, _⟩ | ⟨_, htext, rfl⟩⟩
  · refine Or.inl ⟨record, grant.value, hkeeps, hid, fun other hother htaken => ?_, ?_,
      Server.become_lone _⟩
    · exact free other (Server.stores_active.mpr hother) ((hcollide hother).mpr htaken)
    · simp [Insert.reply, hid]
  · cases ignores
  · exact Or.inr ⟨⟨other, hother, (hcollide hother).mp collide⟩, htext, Server.become_lone _⟩

variable (template scope) in
theorem exists_handles_insertion
    (room : (tables.append written "permission_grants").length < 2 ^ 63 - 1) :
    ∃ answer after, Handles Schema.definitions (.lone tables (.active written))
      (insertion template scope) answer after := by
  obtain ⟨n, positive, hfree⟩ := exists_number room
  obtain ⟨record, makes⟩ := exists_makes_keeps template scope positive fun other hstored =>
    hfree other (Server.stores_active.mp hstored)
  exact exists_handles_insert (Or.inl rfl) makes

end Insertions

end Database

end AccessGrants
