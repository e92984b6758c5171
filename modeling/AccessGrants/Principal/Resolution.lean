import AccessGrants.Collection.SortedSet
import AccessGrants.Principal.Token

/-!
What a session stands for: nobody, an actor that is gone, or an actor with the
tokens it holds. A caller that does not resolve to an actor is evaluated with
the one token that everyone holds.
-/

namespace AccessGrants

/-- The tokens that a caller holds, in the order of their bytes. -/
abbrev PrincipalSet := SortedSet Token

def PrincipalSet.anonymous : PrincipalSet :=
  SortedSet.empty.insert Token.everyone

inductive Resolution where
  /-- No session was given. -/
  | anonymous
  /-- The session leads to no actor, and the caller should forget it. -/
  | invalidSession (session : SessionId)
  | resolved (actor : Actor) (principals : PrincipalSet)
  deriving DecidableEq

def Resolution.held : Resolution → PrincipalSet
  | .resolved _ principals => principals
  | .anonymous | .invalidSession _ => PrincipalSet.anonymous

end AccessGrants
