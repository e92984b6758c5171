import AccessGrants.Acl
import AccessGrants.Proofs.Evaluator.Entitlement

/-!
The access control list that a store gives for a subject type and a target.
Its entries are the superuser's, those of the readers of a public instance and
one for each stored grant that covers the target, all of them allowing; so the
first applicable entry allows as soon as any entry applies.
-/

namespace AccessGrants

namespace Store

def readingEntries (store : Store) (policy : Policy) (subject : String) :
    Target → List Acl.Entry
  | .composite id =>
    if (store.visibility.get? id).any Visibility.isPublic then
      Acl.readingEntries (Acl.readers policy subject)
    else []
  | _ => []

/-- The list of a subject type and a target. -/
def acl (store : Store) (policy : Policy) (subject : String) (target : Target) :
    List Acl.Entry :=
  .allow Token.admin .all ::
    (store.readingEntries policy subject target ++
      (store.subjectGrants subject target).map Acl.Entry.ofGrant)

variable {store : Store} {policy : Policy} {subject : String} {target : Target}

theorem run_visibilityEntries :
    (Acl.visibilityEntries policy subject target).run.run still store =
      ⟨.ok (store.readingEntries policy subject target), [], store⟩ := by
  cases target with
  | creation => rfl
  | single object => rfl
  | composite id =>
      simp only [Acl.visibilityEntries, readingEntries]
      cases hreaders : Acl.readers policy subject with
      | nil =>
          simp only [List.isEmpty_nil, if_true, Acl.readingEntries, List.flatMap_nil, ite_self]
          rfl
      | cons reader rest =>
          have hstate : store.read (.visibility id) = store.visibility.get? id := rfl
          simp only [List.isEmpty_cons, Bool.false_eq_true, if_false]
          refine (store.run_readThen (.visibility id) _).trans ?_
          rw [hstate]
          split
          · rfl
          · rfl

theorem run_ofGrants :
    (Acl.ofGrants policy subject target).run.run still store =
      ⟨.ok (store.acl policy subject target), [], store⟩ := by
  unfold Acl.ofGrants
  rw [Dialogue.run_call_bind _ run_visibilityEntries]
  exact congrArg (Dialogue.Run.after · []) (store.run_readThen (.subjectGrants subject target) _)

theorem consult_ofGrants :
    store.consult (Acl.ofGrants policy subject target).run =
      .ok (store.acl policy subject target) :=
  congrArg Dialogue.Run.result run_ofGrants

end Store

namespace Acl

variable {store : Store} {policy : Policy} {subject : String} {target : Target}

theorem mem_readers {principal : Token} :
    principal ∈ readers policy subject ↔
      (subject ∈ policy.anonymousSubjects ∧ principal = Token.everyone) ∨
        (subject ∈ policy.publicSubjects ∧ principal = Token.authenticated) := by
  simp [readers, Policy.grantsAnonymously, Policy.grantsPublicly]

/-- A reading entry is one of a reader, for an action that only reads a target
in a public state. -/
theorem mem_readingEntries {entry : Entry} :
    entry ∈ store.readingEntries policy subject target ↔
      ∃ principal ∈ readers policy subject, ∃ action,
        store.PubliclyReadable action target ∧ entry = .allow principal (.action action) := by
  cases target with
  | creation => simp [Store.readingEntries, Store.not_publiclyReadable_creation]
  | single object => simp [Store.readingEntries, Store.not_publiclyReadable_single]
  | composite id =>
      simp only [Store.readingEntries, Store.publiclyReadable_composite]
      split
      · next hpublic =>
          simp [hpublic, readingEntries, Policy.isVisibilityAction, eq_comm]
      · next hpublic => simp [hpublic]

theorem mem_acl {entry : Entry} :
    entry ∈ store.acl policy subject target ↔
      entry = .allow Token.admin .all ∨
        (∃ principal ∈ readers policy subject, ∃ action,
          store.PubliclyReadable action target ∧ entry = .allow principal (.action action)) ∨
        ∃ grant, (store.StoresGrant grant ∧ grant.subject = subject ∧
          grant.scope.covers target = true) ∧ entry = Entry.ofGrant grant := by
  rw [Store.acl, List.mem_cons, List.mem_append, mem_readingEntries, List.mem_map]
  simp only [Store.mem_subjectGrants, eq_comm]

/-- The three ways in which a caller meets an entry that permits the action. -/
theorem exists_entry_iff {held : PrincipalSet} {request : Request} :
    (∃ entry ∈ store.acl policy request.subject request.target,
        entry.principal ∈ held ∧ entry.permission.permits request.action = true) ↔
      Token.admin ∈ held ∨
        (store.PubliclyReadable request.action request.target ∧
          ∃ principal ∈ readers policy request.subject, principal ∈ held) ∨
        ∃ grant, store.StoresGrant grant ∧ request.Fits grant ∧ Token.ofGrant grant ∈ held := by
  simp only [mem_acl]
  constructor
  · rintro ⟨entry, rfl | ⟨principal, hreader, action, hreadable, rfl⟩ |
      ⟨grant, ⟨hstored, hsubject, hcovers⟩, rfl⟩, hheld, hpermits⟩
    · exact Or.inl hheld
    · have haction : action = request.action := by
        simpa [Entry.allow, Permission.permits] using hpermits
      subst haction
      exact Or.inr (Or.inl ⟨hreadable, principal, hreader, hheld⟩)
    · have haction : grant.action = request.action := by
        simpa [Entry.ofGrant, Entry.allow, Permission.permits] using hpermits
      exact Or.inr (Or.inr ⟨grant, hstored, ⟨hsubject, haction, hcovers⟩, hheld⟩)
  · rintro (hadmin | ⟨hreadable, principal, hreader, hheld⟩ |
      ⟨grant, hstored, ⟨hsubject, haction, hcovers⟩, hheld⟩)
    · exact ⟨_, Or.inl rfl, hadmin, rfl⟩
    · exact ⟨_, Or.inr (Or.inl ⟨principal, hreader, request.action, hreadable, rfl⟩), hheld,
        by simp [Entry.allow, Permission.permits]⟩
    · exact ⟨_, Or.inr (Or.inr ⟨grant, ⟨hstored, hsubject, hcovers⟩, rfl⟩), hheld,
        by simpa [Entry.ofGrant, Entry.allow, Permission.permits] using haction⟩

theorem verdict_of_mem_acl {entry : Entry} (h : entry ∈ store.acl policy subject target) :
    entry.verdict = .allow := by
  rcases mem_acl.mp h with rfl | ⟨_, _, _, _, rfl⟩ | ⟨_, _, rfl⟩
  · rfl
  · rfl
  · rfl

/-- In a list that only allows, the order of the entries is of no account. -/
theorem decisive?_allows_iff {held : PrincipalSet} {action : String} {acl : List Entry}
    (h : ∀ entry ∈ acl, entry.verdict = .allow) :
    (decisive? held action acl).any (fun entry => entry.verdict == .allow) = true ↔
      ∃ entry ∈ acl, entry.principal ∈ held ∧ entry.permission.permits action = true := by
  have happlies (entry : Entry) : Entry.appliesTo held action entry = true ↔
      entry.principal ∈ held ∧ entry.permission.permits action = true := by
    simp [Entry.appliesTo]
  simp only [← happlies]
  constructor
  · intro hany
    obtain ⟨entry, hfound, _⟩ := (Option.any_eq_true _ _).mp hany
    exact ⟨entry, List.mem_of_find?_eq_some hfound, List.find?_some hfound⟩
  · rintro ⟨entry, hmem, hentry⟩
    obtain ⟨first, hfirst⟩ := Option.isSome_iff_exists.mp
      (List.find?_isSome.mpr ⟨entry, hmem, hentry⟩ : (acl.find? _).isSome = true)
    have hallow := h first (List.mem_of_find?_eq_some hfirst)
    simp [decisive?, hfirst, hallow]

/-- Lists of the same entries that only allow say the same, in whatever order and
however often the entries come. -/
theorem decisive?_allows_congr {held : PrincipalSet} {action : String} {acl other : List Entry}
    (allows : ∀ entry ∈ acl, entry.verdict = .allow)
    (same : ∀ entry, entry ∈ other ↔ entry ∈ acl) :
    ((decisive? held action other).any fun entry => entry.verdict == .allow) =
      (decisive? held action acl).any fun entry => entry.verdict == .allow := by
  have hother : ∀ entry ∈ other, entry.verdict = .allow :=
    fun entry hmem => allows entry ((same entry).mp hmem)
  rw [Bool.eq_iff_iff, decisive?_allows_iff hother, decisive?_allows_iff allows]
  simp only [same]

end Acl

end AccessGrants
