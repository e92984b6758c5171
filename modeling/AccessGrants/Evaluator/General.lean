import AccessGrants.Acl
import AccessGrants.Principal.Resolver

/-!
The general evaluator: it collects the tokens that the caller holds, lists the
access control list of the request, and lets the first applicable entry decide.
-/

namespace AccessGrants.General

/-- Lets the list decide, and reports the entry that did. -/
def decide (held : PrincipalSet) (action : String) (acl : List Acl.Entry) : Inquiry Bool :=
  match Acl.decisive? held action acl with
  | some entry => do
    let allowed := entry.verdict == .allow
    Inquiry.report (.entryMatched entry.principal allowed)
    return allowed
  | none => return false

/-- Evaluates a request against the lists of any source. -/
def checkWith (source : Acl.Source) (request : Request) : Inquiry Bool := do
  let resolution ← Principal.resolve request.session (some request.subject)
  let acl ← source request.subject request.target
  decide resolution.held request.action acl

def check (policy : Policy) (request : Request) : Inquiry Bool :=
  checkWith (Acl.ofGrants policy) request

end AccessGrants.General
