import AccessGrants.Target

/-!
Scopes: which subject instances a grant applies to, and the relation that
decides it. An override covers every target, creation included; all other
scopes name instances and so never cover creation. A number alone matches the
object number of a composite scope, but an object scope does not match a
composite target.
-/

namespace AccessGrants

inductive Scope where
  /-- Every instance of the subject type. -/
  | override
  | object (id : Int64)
  | composite (id : InstanceId)
  deriving DecidableEq, Repr

def Scope.covers : Scope → Target → Bool
  | .override, _ => true
  | .object id, .single wanted => id == wanted
  | .composite id, .composite wanted => id == wanted
  | .composite id, .single wanted => id.object == wanted
  | _, _ => false

end AccessGrants
