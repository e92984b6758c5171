import AccessGrants.Text.Numeral

/-!
Identifiers of stored rows. Every row is named by a signed 64-bit word. Words
that name different kinds of rows are different types, so an actor can never
be looked up by the identifier of a session.
-/

namespace AccessGrants

inductive Entity where
  | actor
  | session
  | organization
  | template
  | grant
  deriving DecidableEq, Repr

def Entity.noun : Entity → String
  | .actor => "actor"
  | .session => "session"
  | .organization => "organization"
  | .template => "template"
  | .grant => "grant"

structure RowId (kind : Entity) where
  value : Int64
  deriving DecidableEq, Repr

abbrev ActorId := RowId .actor
abbrev SessionId := RowId .session
abbrev OrganizationId := RowId .organization
abbrev TemplateId := RowId .template
abbrev GrantId := RowId .grant

namespace RowId

variable {kind : Entity}

instance : Ord (RowId kind) where
  compare a b := compare a.value b.value

instance : Std.TransOrd (RowId kind) where
  eq_swap := Std.OrientedOrd.eq_swap (α := Int64)
  isLE_trans := Std.TransOrd.isLE_trans (α := Int64)

instance : Std.LawfulEqOrd (RowId kind) where
  compare_self := Std.ReflOrd.compare_self (α := Int64)
  eq_of_compare := fun {a b} h => by
    cases a
    cases b
    exact congrArg RowId.mk (Std.LawfulEqOrd.eq_of_compare h)

theorem value_inj {a b : RowId kind} : a.value = b.value ↔ a = b := by
  cases a
  cases b
  simp

def text (id : RowId kind) : String :=
  Text.decimal id.value.toInt

/-- How an error text names the row, as in `actor 7`. -/
def label (id : RowId kind) : String :=
  kind.noun ++ " " ++ id.text

end RowId

/-- Identifier of a subject instance: the session scope it was created under
and its number within that scope. -/
@[ext]
structure InstanceId where
  client : Int64
  object : Int64
  deriving DecidableEq, Repr

namespace InstanceId

/-- Instances are ordered by client first. -/
instance : Ord InstanceId where
  compare := compareLex (compareOn client) (compareOn object)

instance : Std.TransOrd InstanceId :=
  inferInstanceAs (Std.TransCmp (compareLex (compareOn client) (compareOn object)))

instance : Std.LawfulEqOrd InstanceId where
  compare_self :=
    fun {a} => @Std.ReflCmp.compare_self _ (compareLex (compareOn client) (compareOn object)) _ a
  eq_of_compare := fun {a b} h => by
    obtain ⟨hclient, hobject⟩ := compareLex_eq_eq.mp h
    have sameClient : a.client = b.client := Std.LawfulEqOrd.eq_of_compare hclient
    have sameObject : a.object = b.object := Std.LawfulEqOrd.eq_of_compare hobject
    cases a
    cases b
    simp_all

def text (id : InstanceId) : String :=
  Text.decimal id.client.toInt ++ ":" ++ Text.decimal id.object.toInt

end InstanceId

end AccessGrants
