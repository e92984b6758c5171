import AccessGrants.Proofs.Evaluator.General
import AccessGrants.Proofs.Privilege
import AccessGrants.Proofs.Store.Enumeration
import AccessGrants.Proofs.Store.Refusal

/-!
How a list is evaluated. Of the entries that speak about the caller and the
action the first one decides, and it is the one that is logged. In a list with
entries of both verdicts the order matters; the lists that are made of grants
only allow, so they can be arranged in any way and with any repetitions.
-/

namespace AccessGrants

open Acl

namespace Acl

variable {held : PrincipalSet} {action : String} {acl : List Entry} {entry : Entry}

/-- The caller holds the entry's principal, and the entry permits the action. -/
def Entry.Matches (held : PrincipalSet) (action : String) (entry : Entry) : Prop :=
  entry.principal ∈ held ∧ (entry.permission = .all ∨ entry.permission = .action action)

/-- The entry is in the list and no entry before it matches. -/
def FirstMatch (held : PrincipalSet) (action : String) (acl : List Entry) (entry : Entry) : Prop :=
  ∃ before after, acl = before ++ entry :: after ∧ entry.Matches held action ∧
    ∀ earlier ∈ before, ¬ earlier.Matches held action

/-- What a list says about a caller and an action, and what of it is logged. -/
structure Decision (held : PrincipalSet) (action : String) (acl : List Entry) (allowed : Bool)
    (events : List Event) : Prop where
  /-- An allowing entry matches, and no denying one before it. -/
  allows_iff : allowed = true ↔
    ∃ before entry after, acl = before ++ entry :: after ∧ entry.Matches held action ∧
      entry.verdict = .allow ∧
      ∀ earlier ∈ before, earlier.Matches held action → earlier.verdict ≠ .deny
  /-- The first entry that matches is logged, and nothing if none matches. -/
  logged : (∃ entry, FirstMatch held action acl entry ∧
      events = [.entryMatched entry.principal (entry.verdict == .allow)]) ∨
    (∀ entry ∈ acl, ¬ entry.Matches held action) ∧ events = []

theorem Entry.appliesTo_iff : entry.appliesTo held action = true ↔ entry.Matches held action := by
  have hpermits : entry.permission.permits action = true ↔
      entry.permission = .all ∨ entry.permission = .action action := by
    cases entry.permission with
    | all => simp [Permission.permits]
    | action name => simp [Permission.permits]
  rw [Entry.Matches, ← hpermits]
  simp [Entry.appliesTo]

theorem decisive?_eq_some_iff :
    decisive? held action acl = some entry ↔ FirstMatch held action acl entry := by
  rw [decisive?, List.find?_eq_some_iff_append, FirstMatch, Entry.appliesTo_iff]
  simp only [Bool.not_eq_true', ← Bool.not_eq_true, Entry.appliesTo_iff]
  constructor
  · rintro ⟨hmatches, before, after, hacl, hbefore⟩
    exact ⟨before, after, hacl, hmatches, hbefore⟩
  · rintro ⟨before, after, hacl, hmatches, hbefore⟩
    exact ⟨hmatches, before, after, hacl, hbefore⟩

theorem decisive?_eq_none_iff :
    decisive? held action acl = none ↔ ∀ entry ∈ acl, ¬ entry.Matches held action := by
  simp only [decisive?, List.find?_eq_none, Entry.appliesTo_iff]

/-- Where nothing matches before an entry, what else matches comes after it. -/
theorem eq_or_mem_of_matches {before after before' after' : List Entry}
    (unmatched : ∀ earlier ∈ before, ¬ earlier.Matches held action) {first : Entry}
    (matched : entry.Matches held action)
    (same : before ++ first :: after = before' ++ entry :: after') :
    entry = first ∨ first ∈ before' := by
  induction before generalizing before' with
  | nil =>
      cases before' with
      | nil => exact Or.inl (List.cons.inj same).1.symm
      | cons other rest =>
          obtain ⟨rfl, _⟩ := List.cons.inj same
          exact Or.inr List.mem_cons_self
  | cons earlier between ih =>
      obtain ⟨hearlier, hbetween⟩ := List.forall_mem_cons.mp unmatched
      cases before' with
      | nil =>
          obtain ⟨rfl, _⟩ := List.cons.inj same
          exact absurd matched hearlier
      | cons other rest =>
          exact (ih hbetween (List.cons.inj same).2).imp_right (List.mem_cons_of_mem _)

/-- An entry with no denying match before it allows only if the first match does. -/
theorem FirstMatch.allows_iff (h : FirstMatch held action acl entry) :
    entry.verdict = .allow ↔
      ∃ before other after, acl = before ++ other :: after ∧ other.Matches held action ∧
        other.verdict = .allow ∧
        ∀ earlier ∈ before, earlier.Matches held action → earlier.verdict ≠ .deny := by
  obtain ⟨before, after, hacl, hmatches, hbefore⟩ := h
  constructor
  · intro hallow
    exact ⟨before, entry, after, hacl, hmatches, hallow,
      fun earlier hmem hearlier => absurd hearlier (hbefore earlier hmem)⟩
  · rintro ⟨before', other, after', hacl', hother, hallow, hno⟩
    rcases eq_or_mem_of_matches hbefore hother (hacl.symm.trans hacl') with rfl | hmem
    · exact hallow
    · cases hverdict : entry.verdict with
      | allow => rfl
      | deny => exact absurd hverdict (hno entry hmem hmatches)

/-- What the first match has to say is the decision. -/
theorem decision_of_decisive? (held : PrincipalSet) (action : String) (acl : List Entry) :
    Decision held action acl
      ((decisive? held action acl).any fun entry => entry.verdict == .allow)
      ((decisive? held action acl).map fun entry =>
        Event.entryMatched entry.principal (entry.verdict == .allow)).toList := by
  cases hfound : decisive? held action acl with
  | none =>
      have hnone := decisive?_eq_none_iff.mp hfound
      refine ⟨?_, Or.inr ⟨hnone, rfl⟩⟩
      simp only [Option.any_none, Bool.false_eq_true, false_iff]
      rintro ⟨before, entry, after, rfl, hmatches, _⟩
      exact hnone entry (by simp) hmatches
  | some entry =>
      have hfirst := decisive?_eq_some_iff.mp hfound
      refine ⟨?_, Or.inl ⟨entry, hfirst, rfl⟩⟩
      rw [← hfirst.allows_iff, Option.any_some, beq_iff_eq]

/-- Where both verdicts match, the order decides. -/
example :
    let allow : Entry := .allow Token.everyone .all
    let deny : Entry := .deny Token.everyone (.action "edit")
    decisive? PrincipalSet.anonymous "edit" [deny, allow] = some deny ∧
      decisive? PrincipalSet.anonymous "edit" [allow, deny] = some allow := by
  decide

section Parts

variable {store : Store} {policy : Policy} {subject : String} {target : Target}

/-- The target is an instance in a public state. -/
def StoredPublic (store : Store) (target : Target) : Prop :=
  ∃ id state, target = .composite id ∧ store.visibility.get? id = some state ∧
    (state = .published ∨ state = .limitedAccess)

/-- A reader may view and preview. -/
def readerEntries (principal : Token) : List Entry :=
  [⟨.allow, principal, .action "view"⟩, ⟨.allow, principal, .action "preview"⟩]

/-- The readers of the public instances of a subject type, those without an actor
first. -/
def publicEntries (policy : Policy) (subject : String) : List Entry :=
  (if subject ∈ policy.anonymousSubjects then readerEntries Token.everyone else []) ++
    if subject ∈ policy.publicSubjects then readerEntries Token.authenticated else []

/-- The list of a subject type and a target has these parts, none of which denies. -/
structure Composed (store : Store) (policy : Policy) (subject : String) (target : Target)
    (acl : List Entry) : Prop where
  /-- Superusers may do everything, then come the readers, and then each grant
  permits its action to those who hold its token. -/
  parts : ∃ reading grants,
    acl = ⟨.allow, Token.admin, .all⟩ ::
      (reading ++ grants.map fun grant => ⟨.allow, Token.ofGrant grant, .action grant.action⟩) ∧
    (StoredPublic store target → reading = publicEntries policy subject) ∧
    (¬ StoredPublic store target → reading = []) ∧
    Enumerates Grant.id grants (Read.AsksFor store (.subjectGrants subject target))
  allows : ∀ entry ∈ acl, entry.verdict = .allow
  /-- In any order and with any repetitions the list is evaluated as it is. -/
  rearranged : ∀ (other : List Entry), (∀ entry, entry ∈ other ↔ entry ∈ acl) →
    (∀ held action, store.consult (General.decide held action other).run =
      store.consult (General.decide held action acl).run) ∧
    ∀ (source : Source) (session : Option SessionId) (action : String),
      store.consult (source subject target).run = .ok other →
        store.consult (General.checkWith source ⟨session, action, subject, target⟩).run =
          store.consult (General.check policy ⟨session, action, subject, target⟩).run

theorem readingEntries_readers (policy : Policy) (subject : String) :
    readingEntries (readers policy subject) = publicEntries policy subject := by
  simp only [readers, publicEntries, readingEntries, List.flatMap_append, Policy.grantsAnonymously,
    Policy.grantsPublicly, SortedSet.contains_eq_true]
  congr 1
  · split
    · rfl
    · rfl
  · split
    · rfl
    · rfl

theorem storedPublic_composite_iff {id : InstanceId} :
    StoredPublic store (.composite id) ↔
      (store.visibility.get? id).any Visibility.isPublic = true := by
  rw [Option.any_eq_true]
  constructor
  · rintro ⟨_, state, htarget, hstate, hpublic⟩
    cases htarget
    exact ⟨state, hstate, Visibility.isPublic_iff.mpr hpublic⟩
  · rintro ⟨state, hstate, hpublic⟩
    exact ⟨id, state, rfl, hstate, Visibility.isPublic_iff.mp hpublic⟩

theorem readingEntries_of_public (h : StoredPublic store target) :
    store.readingEntries policy subject target = publicEntries policy subject := by
  have hpublic := h
  obtain ⟨id, _, rfl, _⟩ := h
  rw [← readingEntries_readers, Store.readingEntries,
    if_pos (storedPublic_composite_iff.mp hpublic)]

theorem readingEntries_of_not_public (h : ¬ StoredPublic store target) :
    store.readingEntries policy subject target = [] := by
  cases target with
  | creation => rfl
  | single object => rfl
  | composite id =>
      rw [storedPublic_composite_iff] at h
      rw [Store.readingEntries, if_neg h]

end Parts

end Acl

namespace General

variable {σ : Type}

/-- Whoever answers the reads, and whatever list they lead to, it is scanned from
the front. -/
structure Scans (partner : (question : Read) → σ → question.Answer × σ) : Prop where
  decided : ∀ held action acl state, ∃ allowed events,
    (decide held action acl).run.run partner state = ⟨.ok allowed, events, state⟩ ∧
      Decision held action acl allowed events
  checked : ∀ (source : Source) (request : Request) (resolution : Resolution) (acl : List Entry)
    (resolved listed : List Event) (before middle after : σ),
    (Principal.resolve request.session (some request.subject)).run.run partner before =
        ⟨.ok resolution, resolved, middle⟩ →
      (source request.subject request.target).run.run partner middle = ⟨.ok acl, listed, after⟩ →
      ∃ allowed events, (checkWith source request).run.run partner before =
          ⟨.ok allowed, resolved ++ (listed ++ events), after⟩ ∧
        Decision resolution.held request.action acl allowed events

theorem scans (partner : (question : Read) → σ → question.Answer × σ) : Scans partner where
  decided := fun held action acl state =>
    ⟨_, _, run_decide held action acl state, decision_of_decisive? held action acl⟩
  checked := by
    intro source request resolution acl resolved listed before middle after hresolves hlists
    refine ⟨_, _, ?_, decision_of_decisive? resolution.held request.action acl⟩
    unfold checkWith
    rw [Dialogue.run_call_bind _ hresolves, Dialogue.run_call_bind _ hlists, run_decide]
    rfl

end General

namespace Store

variable {store : Store} (policy : Policy) (subject : String) (target : Target)

theorem composed_acl (keyed : store.Keyed) :
    Composed store policy subject target (store.acl policy subject target) where
  parts := ⟨store.readingEntries policy subject target,
    store.read (.subjectGrants subject target), rfl, readingEntries_of_public,
    readingEntries_of_not_public, subjectGrants_enumerates keyed subject target⟩
  allows := fun entry hmem => verdict_of_mem_acl hmem
  rearranged := by
    intro other hsame
    have hdecide (held : PrincipalSet) (action : String) :
        store.consult (General.decide held action other).run =
          store.consult (General.decide held action (store.acl policy subject target)).run := by
      rw [General.consult_decide, General.consult_decide,
        decisive?_allows_congr (fun entry hmem => verdict_of_mem_acl hmem) hsame]
    refine ⟨hdecide, ?_⟩
    intro source session action hsource
    obtain ⟨resolution, hresolution, _⟩ := Principal.resolve_admin_iff store session subject
    unfold General.check General.checkWith
    rw [consult_call_bind _ _ hresolution, consult_call_bind _ _ hresolution,
      consult_call_bind _ _ hsource, consult_call_bind _ _ consult_ofGrants]
    exact hdecide resolution.held action

end Store

namespace General

/-- Over any partner the first matching entry of a list decides. Over the stores
that come about by writes the lists made of grants have the parts that they are to
have, in order, and the order is of no account. -/
theorem first_match_decides (writes : List Write) (policy : Policy) (subject : String)
    (target : Target) :
    (∀ {σ : Type} (partner : (question : Read) → σ → question.Answer × σ), Scans partner) ∧
      ∃ acl, (ofGrants policy subject target).run.run Store.still (Store.empty.after writes) =
          ⟨.ok acl, [], Store.empty.after writes⟩ ∧
        Composed (Store.empty.after writes) policy subject target acl :=
  ⟨scans, _, Store.run_ofGrants,
    Store.composed_acl policy subject target (Store.keyed_after writes)⟩

/-- A published instance with a grant to edit it. -/
def publishedWithGrant : List Write :=
  [.createTemplate "approve_entities" "edit" [], .createGrant ⟨1⟩ (.composite ⟨9, 5⟩),
    .setVisibility ⟨9, 5⟩ .published]

/-- The subject type has readers of both kinds under the standard policy, and the
holder of the grant meets its entry behind theirs. -/
theorem published_instance_lists_readers_and_grant :
    let store := Store.empty.after publishedWithGrant
    let acl : List Entry :=
      [⟨.allow, ⟨"Admin"⟩, .all⟩,
        ⟨.allow, ⟨"system.Everyone"⟩, .action "view"⟩,
        ⟨.allow, ⟨"system.Everyone"⟩, .action "preview"⟩,
        ⟨.allow, ⟨"system.Authenticated"⟩, .action "view"⟩,
        ⟨.allow, ⟨"system.Authenticated"⟩, .action "preview"⟩,
        ⟨.allow, ⟨"edit:approve_entities:9:5"⟩, .action "edit"⟩]
    let held : PrincipalSet := .ofList [⟨"edit:approve_entities:9:5"⟩, ⟨"system.Authenticated"⟩]
    (ofGrants .standard "approve_entities" (.composite ⟨9, 5⟩)).run.run Store.still store =
        ⟨.ok acl, [], store⟩ ∧
      Composed store .standard "approve_entities" (.composite ⟨9, 5⟩) acl ∧
      (decide held "edit" acl).run.run Store.still store =
        ⟨.ok true, [.entryMatched ⟨"edit:approve_entities:9:5"⟩ true], store⟩ ∧
      Decision held "edit" acl true [.entryMatched ⟨"edit:approve_entities:9:5"⟩ true] := by
  intro store acl held
  obtain ⟨hscans, listed, hlisted, hcomposed⟩ :=
    first_match_decides publishedWithGrant .standard "approve_entities" (.composite ⟨9, 5⟩)
  have hacl : (ofGrants .standard "approve_entities" (.composite ⟨9, 5⟩)).run.run Store.still
      store = ⟨.ok acl, [], store⟩ := rfl
  have hsame : listed = acl := by
    have hrun := hlisted.symm.trans hacl
    cases hrun
    rfl
  rw [hsame] at hcomposed
  obtain ⟨allowed, events, hdecided, hdecision⟩ :=
    (hscans Store.still).decided held "edit" acl store
  have hverdict : (decide held "edit" acl).run.run Store.still store =
      ⟨.ok true, [.entryMatched ⟨"edit:approve_entities:9:5"⟩ true], store⟩ := rfl
  rw [hverdict] at hdecided
  cases hdecided
  exact ⟨hacl, hcomposed, hverdict, hdecision⟩

end General

end AccessGrants
