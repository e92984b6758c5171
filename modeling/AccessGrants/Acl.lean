import AccessGrants.Inquiry
import AccessGrants.Policy
import AccessGrants.Principal.Resolution

/-!
Access control lists. A list is read from the front: the first entry whose
principal the caller holds and whose permission includes the action decides,
and without such an entry the request is denied. The list of a subject and a
target has the superuser's entry, then those of a public instance, then one
entry for each stored grant that covers the target.
-/

namespace AccessGrants.Acl

inductive Verdict where
  | allow
  | deny
  deriving DecidableEq, Repr

inductive Permission where
  | action (name : String)
  | all
  deriving DecidableEq, Repr

def Permission.permits : Permission → String → Bool
  | .action name, wanted => name == wanted
  | .all, _ => true

structure Entry where
  verdict : Verdict
  principal : Token
  permission : Permission
  deriving DecidableEq, Repr

namespace Entry

def allow (principal : Token) (permission : Permission) : Entry :=
  ⟨.allow, principal, permission⟩

def deny (principal : Token) (permission : Permission) : Entry :=
  ⟨.deny, principal, permission⟩

/-- Whether the entry speaks about this caller and this action. -/
def appliesTo (held : PrincipalSet) (action : String) (entry : Entry) : Bool :=
  held.contains entry.principal && entry.permission.permits action

def ofGrant (grant : Grant) : Entry :=
  allow (Token.ofGrant grant) (.action grant.action)

end Entry

def decisive? (held : PrincipalSet) (action : String) (acl : List Entry) : Option Entry :=
  acl.find? (Entry.appliesTo held action)

/-- Where an evaluator takes its lists from. -/
abbrev Source : Type := String → Target → Inquiry (List Entry)

/-- Who may read the public instances of a subject type. -/
def readers (policy : Policy) (subject : String) : List Token :=
  (if policy.grantsAnonymously subject then [Token.everyone] else []) ++
    if policy.grantsPublicly subject then [Token.authenticated] else []

def readingEntries (principals : List Token) : List Entry :=
  principals.flatMap fun principal =>
    Policy.visibilityActions.map fun action => Entry.allow principal (.action action)

/-- The stored state is read only if the subject type has readers. -/
def visibilityEntries (policy : Policy) (subject : String) : Target → Inquiry (List Entry)
  | .composite id => do
    let principals := readers policy subject
    if principals.isEmpty then return []
    else
      let state ← Inquiry.visibility id
      if state.any Visibility.isPublic then return readingEntries principals else return []
  | _ => return []

/-- The list made of the policy, the stored state and the stored grants. -/
def ofGrants (policy : Policy) : Source := fun subject target => do
  let reading ← visibilityEntries policy subject target
  let grants ← Inquiry.subjectGrants subject target
  return Entry.allow Token.admin .all :: (reading ++ grants.map Entry.ofGrant)

end AccessGrants.Acl
