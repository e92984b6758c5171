import AccessGrants.Principal.Token
import AccessGrants.Proofs.Text.Colon
import AccessGrants.Proofs.Text.Numeral

/-!
What a token says about its grant. A grant's token has a colon and so is none
of the reserved tokens. Grants of one subject type share a token when they have
the same action and the same scope, and in one other case: when the subject
type is made of copies of one numeral, that numeral can be read as the client
of a composite scope or as the end of the action. Main statement:
`ofGrant_eq_iff`.
-/

namespace AccessGrants.Token

open Text

/-- The action and the subject type, as characters of a token. -/
def stem (grant : Grant) : List Char :=
  grant.action.toList ++ ':' :: grant.subject.toList

/-- What stands before the last colon of a grant's token. -/
def front (grant : Grant) : List Char :=
  match grant.scope with
  | .override | .object _ => stem grant
  | .composite id => stem grant ++ ':' :: decimalChars id.client.toInt

/-- What stands behind the last colon of a grant's token. -/
def lastPart : Scope → List Char
  | .override => ['T', 'r', 'u', 'e']
  | .object id => decimalChars id.toInt
  | .composite id => decimalChars id.object.toInt

theorem toList_ofGrant (grant : Grant) :
    (ofGrant grant).text.toList = front grant ++ ':' :: lastPart grant.scope := by
  cases h : grant.scope with
  | override => simp [ofGrant, front, lastPart, stem, scopeText, h]
  | object id => simp [ofGrant, front, lastPart, stem, scopeText, h]
  | composite id => simp [ofGrant, front, lastPart, stem, scopeText, InstanceId.text, h]

theorem colon_not_mem_lastPart (scope : Scope) : ':' ∉ lastPart scope := by
  cases scope with
  | override => decide
  | object id => exact colon_not_mem_decimalChars id.toInt
  | composite id => exact colon_not_mem_decimalChars id.object.toInt

theorem colon_mem_ofGrant (grant : Grant) : ':' ∈ (ofGrant grant).text.toList := by
  simp [toList_ofGrant]

theorem ofGrant_ne {token : Token} (grant : Grant) (h : ':' ∉ token.text.toList) :
    ofGrant grant ≠ token := by
  intro same
  rw [← same] at h
  exact h (colon_mem_ofGrant grant)

@[simp] theorem ofGrant_ne_admin (grant : Grant) : ofGrant grant ≠ admin :=
  ofGrant_ne grant (by decide)

@[simp] theorem ofGrant_ne_everyone (grant : Grant) : ofGrant grant ≠ everyone :=
  ofGrant_ne grant (by decide)

@[simp] theorem ofGrant_ne_authenticated (grant : Grant) : ofGrant grant ≠ authenticated :=
  ofGrant_ne grant (by decide)

/-- A token is known from its two parts. -/
theorem ofGrant_eq_iff_parts {a b : Grant} :
    ofGrant a = ofGrant b ↔ front a = front b ∧ lastPart a.scope = lastPart b.scope := by
  have hchars : ofGrant a = ofGrant b ↔
      (ofGrant a).text.toList = (ofGrant b).text.toList := by
    rw [Token.mk.injEq, String.toList_inj]
  rw [hchars, toList_ofGrant, toList_ofGrant]
  constructor
  · exact split_at_last_colon (colon_not_mem_lastPart _) (colon_not_mem_lastPart _)
  · rintro ⟨hfront, hlast⟩
    rw [hfront, hlast]

/-- Two different grants with one token: the numeral that one of them has as
the client of its scope is the end of the other one's action. -/
def Lookalike (a b : Grant) : Prop :=
  ∃ client object, a.scope = .composite ⟨client, object⟩ ∧ b.scope = .object object ∧
    b.action = a.action ++ ":" ++ decimal client.toInt ∧
    Repeats (decimal client.toInt) a.subject

theorem decimalChars_toInt_inj {m n : Int64} :
    decimalChars m.toInt = decimalChars n.toInt ↔ m = n :=
  ⟨fun h => Int64.toInt_inj.mp (decimalChars_injective h), fun h => by rw [h]⟩

theorem stem_eq_iff {a b : Grant} (same : a.subject = b.subject) :
    stem a = stem b ↔ a.action = b.action := by
  simp [stem, same, String.toList_inj]

theorem stem_eq_append_iff {a b : Grant} (same : a.subject = b.subject) (n : Int) :
    stem b = stem a ++ ':' :: decimalChars n ↔
      b.action = a.action ++ ":" ++ decimal n ∧ Repeats (decimal n) a.subject := by
  have haction : b.action = a.action ++ ":" ++ decimal n ↔
      b.action.toList = a.action.toList ++ ':' :: decimalChars n := by
    rw [← String.toList_inj]
    simp
  rw [haction, repeats_iff, toList_decimal, stem, stem, ← same]
  exact append_colon_eq_iff (colon_not_mem_decimalChars n)

theorem stem_append_numeral_inj {a b : Grant} (same : a.subject = b.subject) {m n : Int64} :
    stem a ++ ':' :: decimalChars m.toInt = stem b ++ ':' :: decimalChars n.toInt ↔
      a.action = b.action ∧ m = n := by
  constructor
  · intro h
    obtain ⟨hstem, hnumeral⟩ := split_at_last_colon (colon_not_mem_decimalChars _)
      (colon_not_mem_decimalChars _) h
    exact ⟨(stem_eq_iff same).mp hstem, decimalChars_toInt_inj.mp hnumeral⟩
  · rintro ⟨haction, rfl⟩
    rw [(stem_eq_iff same).mpr haction]

/-- No numeral is the word that stands for an override. -/
theorem override_ne_numeral (n : Int) : ['T', 'r', 'u', 'e'] ≠ decimalChars n := by
  intro h
  have hmem : 'T' ∈ decimalChars n := by
    rw [← h]
    exact List.mem_cons_self
  rcases mem_decimalChars hmem with hsign | hdigit
  · exact absurd hsign (by decide)
  · exact absurd hdigit (by decide)

/-- A composite scope against an object scope: the parts agree exactly for
lookalikes. -/
theorem parts_eq_iff_lookalike {a b : Grant} (same : a.subject = b.subject) {id : InstanceId}
    {object : Int64} (ha : a.scope = .composite id) (hb : b.scope = .object object) :
    front a = front b ∧ lastPart a.scope = lastPart b.scope ↔ Lookalike a b := by
  have hparts : front a = front b ∧ lastPart a.scope = lastPart b.scope ↔
      (b.action = a.action ++ ":" ++ decimal id.client.toInt ∧
        Repeats (decimal id.client.toInt) a.subject) ∧ id.object = object := by
    rw [← stem_eq_append_iff same]
    simp only [front, lastPart, ha, hb, decimalChars_toInt_inj, eq_comm]
  rw [hparts]
  constructor
  · rintro ⟨⟨haction, hrepeats⟩, rfl⟩
    exact ⟨id.client, id.object, ha, hb, haction, hrepeats⟩
  · rintro ⟨client, object', hcomposite, hobject, haction, hrepeats⟩
    rw [ha] at hcomposite
    rw [hb] at hobject
    cases hcomposite
    cases hobject
    exact ⟨⟨haction, hrepeats⟩, rfl⟩

/-- Which grants of one subject type share a token. -/
theorem ofGrant_eq_iff {a b : Grant} (same : a.subject = b.subject) :
    ofGrant a = ofGrant b ↔
      (a.action = b.action ∧ a.scope = b.scope) ∨ Lookalike a b ∨ Lookalike b a := by
  rw [ofGrant_eq_iff_parts]
  -- Scopes of one shape tell the parts apart one by one, and an override's last
  -- part is no numeral; what is left is a composite scope against an object's.
  cases ha : a.scope with
  | override =>
      cases hb : b.scope with
      | override => simp [front, lastPart, Lookalike, ha, hb, stem_eq_iff same]
      | object id => simp [lastPart, Lookalike, ha, hb, override_ne_numeral]
      | composite id => simp [lastPart, Lookalike, ha, hb, override_ne_numeral]
  | object id =>
      cases hb : b.scope with
      | override => simp [lastPart, Lookalike, ha, hb, (override_ne_numeral _).symm]
      | object id' =>
          simp [front, lastPart, Lookalike, ha, hb, stem_eq_iff same, decimalChars_toInt_inj]
      | composite id' =>
          rw [← ha, ← hb, ← parts_eq_iff_lookalike same.symm hb ha]
          simp [Lookalike, ha, hb, eq_comm]
  | composite id =>
      cases hb : b.scope with
      | override => simp [lastPart, Lookalike, ha, hb, (override_ne_numeral _).symm]
      | object id' =>
          rw [← ha, ← hb, parts_eq_iff_lookalike same ha hb]
          simp [Lookalike, ha, hb]
      | composite id' =>
          simp only [front, lastPart, Lookalike, ha, hb, stem_append_numeral_inj same,
            decimalChars_toInt_inj]
          cases id
          cases id'
          simp [and_assoc]

theorem Lookalike.action_ne {a b : Grant} (h : Lookalike a b) : b.action ≠ a.action := by
  obtain ⟨client, _, _, _, haction, _⟩ := h
  intro same
  have hlength := congrArg List.length (congrArg String.toList (same.symm.trans haction))
  simp at hlength

/-- Two grants of one subject type, whatever else they are made of, share a token
if they agree in action and scope, or if one action is the other one with the
numeral of the other scope's client at its end, the objects are the same and the
subject type is nothing but copies of that numeral. -/
theorem shares_token_iff (id id' : GrantId) (template template' : TemplateId)
    (subject action action' : String) (scope scope' : Scope) :
    ofGrant ⟨id, template, subject, action, scope⟩ =
        ofGrant ⟨id', template', subject, action', scope'⟩ ↔
      (action = action' ∧ scope = scope') ∨
        ∃ client object : Int64, Repeats (decimal client.toInt) subject ∧
          ((scope = .composite ⟨client, object⟩ ∧ scope' = .object object ∧
              action' = action ++ ":" ++ decimal client.toInt) ∨
            (scope' = .composite ⟨client, object⟩ ∧ scope = .object object ∧
              action = action' ++ ":" ++ decimal client.toInt)) := by
  have hsame : (⟨id, template, subject, action, scope⟩ : Grant).subject =
      (⟨id', template', subject, action', scope'⟩ : Grant).subject := rfl
  apply (ofGrant_eq_iff hsame).trans
  constructor
  · rintro (heq | ⟨client, object, hcomposite, hobject, haction, hrepeats⟩ |
      ⟨client, object, hcomposite, hobject, haction, hrepeats⟩)
    · exact Or.inl heq
    · exact Or.inr ⟨client, object, hrepeats, Or.inl ⟨hcomposite, hobject, haction⟩⟩
    · exact Or.inr ⟨client, object, hrepeats, Or.inr ⟨hcomposite, hobject, haction⟩⟩
  · rintro (heq | ⟨client, object, hrepeats,
      ⟨hcomposite, hobject, haction⟩ | ⟨hcomposite, hobject, haction⟩⟩)
    · exact Or.inl heq
    · exact Or.inr (Or.inl ⟨client, object, hcomposite, hobject, haction, hrepeats⟩)
    · exact Or.inr (Or.inr ⟨client, object, hcomposite, hobject, haction, hrepeats⟩)

/-- A subject type of two copies of a client's numeral, and a negative client. -/
example : ofGrant ⟨⟨1⟩, ⟨2⟩, "-5:-5", "view", .composite ⟨-5, 7⟩⟩ =
    ofGrant ⟨⟨3⟩, ⟨4⟩, "-5:-5", "view:-5", .object 7⟩ := by decide

end AccessGrants.Token
