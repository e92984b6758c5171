import AccessGrants.Json.Printer
import AccessGrants.Target

/-!
Targets as JSON values: null for creation, an integer, or an array of exactly
two integers, each within the signed 64-bit range. Nothing else is a target,
not even a string that would read as one; the error quotes the value.
-/

namespace AccessGrants

/-- The value as a signed 64-bit word; a double never is one. -/
def Json.int64? : Json → Option Int64
  | .number (.integer n) => if Text.fitsInt64 n then some (Int64.ofInt n) else none
  | _ => none

namespace Target

def ofJson? : Json → Option Target
  | .null => some .creation
  | .array [client, object] =>
    client.int64?.bind fun client => object.int64?.map fun object => .composite ⟨client, object⟩
  | value => value.int64?.map .single

def ofJson (value : Json) : Except CheckError Target :=
  match ofJson? value with
  | some target => .ok target
  | none => .error (.unrecognizedTarget value.compact)

end Target

end AccessGrants
