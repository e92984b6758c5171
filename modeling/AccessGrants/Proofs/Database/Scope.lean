import AccessGrants.Database.Scope
import AccessGrants.Proofs.Sql.Meaning

/-!
Scopes in their columns. Reading the columns of a scope gives the scope back,
and the condition on the columns is true exactly when the scope covers the
target. A column that is null makes its comparison unknown, which chooses no
row.
-/

namespace AccessGrants

open Sql

theorem Scope.scope_columns (scope : Scope) : scope.columns.scope = .ok scope := by
  cases scope <;> rfl

namespace Target

variable {before : List Value} {frame : Frame} {scope : Scope}

/-- The placeholders behind those of other parameters are for the numbers. -/
theorem value_placeholder_append (before numbers : List Value) (frame : Frame) (i : Nat) :
    (Expr.placeholder (before.length + 1 + i)).value (before ++ numbers) frame =
      numbers[i]?.getD .null := by
  have hindex : before.length + 1 + i - 1 = before.length + i := by omega
  rw [Expr.value, hindex, List.getElem?_append_right (Nat.le_add_right _ _),
    Nat.add_sub_cancel_left]

/-- The condition chooses the scopes that cover the target. -/
theorem condition_holds_iff (target : Target)
    (hoverride : frame.column "g" "is_override" = .bool scope.columns.isOverride)
    (hclient : frame.column "g" "subject_client_id" = .ofInt? scope.columns.client)
    (hobject : frame.column "g" "subject_object_id" = .ofInt? scope.columns.object) :
    (target.condition (before.length + 1)).Holds (before ++ target.numbers.map .int) frame ↔
      scope.covers target = true := by
  have hcolumn (label name : String) (parameters : List Value) :
      (Expr.column label name).value parameters frame = frame.column label name := rfl
  cases target with
  | creation =>
      rw [condition, Expr.holds_column, hoverride]
      cases scope <;> simp [Scope.columns, Scope.covers]
  | single object =>
      have hfirst := value_placeholder_append before [.int object] frame 0
      simp only [condition, numbers, Expr.holds_group, Expr.holds_either, Expr.holds_column,
        Expr.holds_equal, hcolumn, hoverride, hobject, List.map_cons, List.map_nil, hfirst]
      cases scope <;> simp [Scope.columns, Scope.covers, Value.ofInt?]
  | composite id =>
      have hfirst := value_placeholder_append before [.int id.client, .int id.object] frame 0
      have hsecond := value_placeholder_append before [.int id.client, .int id.object] frame 1
      simp only [condition, numbers, Expr.holds_group, Expr.holds_either, Expr.holds_column,
        Expr.holds_both, Expr.holds_equal, hcolumn, hoverride, hclient, hobject, List.map_cons,
        List.map_nil, hfirst, hsecond]
      cases scope <;> simp [Scope.columns, Scope.covers, Value.ofInt?, InstanceId.ext_iff]

end Target

end AccessGrants
