/-!
Which evaluator answers: the general one, the direct one, or both, in which
case a request is allowed only if they agree on allowing it.
-/

namespace AccessGrants

inductive Evaluator where
  | general
  | direct
  | verify
  deriving DecidableEq, Repr

namespace Evaluator

def all : List Evaluator := [.general, .direct, .verify]

def name : Evaluator → String
  | .general => "general"
  | .direct => "direct"
  | .verify => "verify"

/-- Names are read exactly as they are written. -/
def ofName? (name : String) : Option Evaluator :=
  all.find? fun evaluator => evaluator.name == name

def unknownMessage (name : String) : String :=
  "unknown evaluator '" ++ name ++ "'"

end Evaluator

end AccessGrants
