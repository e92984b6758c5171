/-!
Publication states of subject instances. Four states have a meaning of their
own and every other text is kept as it is, so a state is its text: reading the
text of a state gives that state back, and two of the states are public.
-/

namespace AccessGrants

inductive Visibility where
  | published
  | limitedAccess
  | draft
  | hidden
  | other (state : String)
  deriving DecidableEq, Repr

namespace Visibility

def ofText (state : String) : Visibility :=
  if state = "Published" then .published
  else if state = "Limited access" then .limitedAccess
  else if state = "Draft" then .draft
  else if state = "Hidden" then .hidden
  else .other state

def text : Visibility → String
  | .published => "Published"
  | .limitedAccess => "Limited access"
  | .draft => "Draft"
  | .hidden => "Hidden"
  | .other state => state

/-- Public instances can be viewed and previewed without any grant. -/
def isPublic : Visibility → Bool
  | .published | .limitedAccess => true
  | _ => false

end Visibility

end AccessGrants
