import AccessGrants.Model

/-!
Principal tokens: the names under which rights are held and looked up. Three
tokens are reserved; every other token is the text of a grant, its action, its
subject type and its scope joined by colons. Tokens are ordered by the bytes
of their UTF-8 encoding.
-/

namespace AccessGrants

structure Token where
  text : String
  deriving DecidableEq, Repr

namespace Token

/-- Held by superusers. -/
def admin : Token := ⟨"Admin"⟩

/-- Held by callers that do not resolve to an actor. -/
def everyone : Token := ⟨"system.Everyone"⟩

/-- Held by every caller that resolves to an actor. -/
def authenticated : Token := ⟨"system.Authenticated"⟩

def scopeText : Scope → String
  | .override => "True"
  | .object id => Text.decimal id.toInt
  | .composite id => id.text

def ofGrant (grant : Grant) : Token :=
  ⟨grant.action ++ ":" ++ grant.subject ++ ":" ++ scopeText grant.scope⟩

def bytes (token : Token) : List UInt8 :=
  token.text.toByteArray.data.toList

theorem bytes_injective {a b : Token} (h : a.bytes = b.bytes) : a = b := by
  have hdata : a.text.toByteArray.data = b.text.toByteArray.data := Array.toList_inj.mp h
  have htext : a.text = b.text := String.toByteArray_inj.mp (ByteArray.ext hdata)
  cases a
  cases b
  cases htext
  rfl

instance : Ord Token where
  compare := compareOn bytes

instance : Std.TransOrd Token :=
  inferInstanceAs (Std.TransCmp (compareOn bytes))

instance : Std.LawfulEqOrd Token where
  compare_self := fun {a} => @Std.ReflCmp.compare_self _ (compareOn bytes) _ a
  eq_of_compare := fun h => bytes_injective (Std.LawfulEqOrd.eq_of_compare h)

end Token

end AccessGrants
