import AccessGrants.Dialogue
import AccessGrants.Text.Blank

/-!
The session that a request is evaluated under. A desktop deployment carries
many sessions over one transport identity, so there the session in the desktop
cookie takes the place of the raw one, and a cookie that is missing or is not
a numeral leaves the request without a session.
-/

namespace AccessGrants

/-- The session that a cookie names: the numeral between its outer blanks. -/
def SessionId.ofCookie? (cookie : String) : Option SessionId :=
  (Text.readInt64? (Text.trimChars cookie.toList)).map RowId.mk

def effectiveSession {Q : Type} {A : Q → Type} (desktop : Bool) (raw : Option SessionId)
    (cookie : Option String) : Dialogue Q A (Option SessionId) :=
  if desktop then
    match cookie with
    | none => .done none
    | some cookie =>
      match SessionId.ofCookie? cookie with
      | some session => .done (some session)
      | none => .report (.malformedCookie cookie) (.done none)
  else .done raw

end AccessGrants
