import AccessGrants.Proofs.Evaluator.General
import AccessGrants.Proofs.Service.Transcript

/-!
Stores that answer alike. Two stores are alike when neither refuses a read and
they answer each of them in the same way, except that a listing may come in
another order and may repeat its members. Whatever the service asks of two such
stores, it hears the same from both: a listing is only ever gathered into a set
of tokens, or into an access control list of which every entry allows.
-/

namespace AccessGrants

/-- Two answers of a read between which no caller can tell. -/
def Read.Alike : (read : Read) → read.Result → read.Result → Prop
  | .actorGrants _ _, grants, others | .organizationGrants _ _, grants, others
  | .subjectGrants _ _, grants, others => ∀ grant, grant ∈ grants ↔ grant ∈ others
  | .actorForSession _, actor, other => actor = other
  | .grantExistsForActor _ _, answer, other | .grantExistsForOrganizations _ _, answer, other =>
    answer = other
  | .visibility _, state, other => state = other

variable {σ τ α β γ δ ε : Type}

/-- Two partners that answer every read, and alike, whatever states they are in. -/
def AnswerAlike (answer : (read : Read) → σ → read.Answer × σ)
    (answer' : (read : Read) → τ → read.Answer × τ) : Prop :=
  ∀ read state state', ∃ value value', (answer read state).1 = .ok value ∧
    (answer' read state').1 = .ok value' ∧ read.Alike value value'

/-- One call to the one partner and one to the other arrive at related values. -/
def Concur (answer : (read : Read) → σ → read.Answer × σ)
    (answer' : (read : Read) → τ → read.Answer × τ) (related : α → β → Prop)
    (call : ExceptT ε (Dialogue Read Read.Answer) α)
    (call' : ExceptT ε (Dialogue Read Read.Answer) β) : Prop :=
  ∀ state state', ∃ value value', (call.run.run answer state).result = .ok value ∧
    (call'.run.run answer' state').result = .ok value' ∧ related value value'

variable {answer : (read : Read) → σ → read.Answer × σ}
  {answer' : (read : Read) → τ → read.Answer × τ}

namespace Concur

variable {related : α → β → Prop} {further : γ → δ → Prop}

theorem pure {value : α} {value' : β} (h : related value value') :
    Concur answer answer' related (ε := ε) (Pure.pure value) (Pure.pure value') :=
  fun _ _ => ⟨value, value', rfl, rfl, h⟩

/-- Calls go on with what they hear, so they stay related if what follows
related values is. -/
theorem bind {call : ExceptT ε (Dialogue Read Read.Answer) α}
    {call' : ExceptT ε (Dialogue Read Read.Answer) β}
    {next : α → ExceptT ε (Dialogue Read Read.Answer) γ}
    {next' : β → ExceptT ε (Dialogue Read Read.Answer) δ}
    (h : Concur answer answer' related call call')
    (hnext : ∀ value value', related value value' →
      Concur answer answer' further (next value) (next' value')) :
    Concur answer answer' further (call >>= next) (call' >>= next') := by
  intro state state'
  obtain ⟨value, value', hvalue, hvalue', hrelated⟩ := h state state'
  obtain ⟨last, last', hlast, hlast', hfurther⟩ := hnext value value' hrelated
    (call.run.run answer state).state (call'.run.run answer' state').state
  refine ⟨last, last', ?_, ?_, hfurther⟩
  · rw [Dialogue.result_call_bind hvalue]
    exact hlast
  · rw [Dialogue.result_call_bind hvalue']
    exact hlast'

theorem read (alike : AnswerAlike answer answer') (question : Read) :
    Concur answer answer' question.Alike (Inquiry.read question) (Inquiry.read question) := by
  intro state state'
  obtain ⟨value, value', hvalue, hvalue', hrelated⟩ := alike question state state'
  refine ⟨value, value', ?_, ?_, hrelated⟩
  · simp [Inquiry.read, Dialogue.run, hvalue, Except.mapError]
  · simp [Inquiry.read, Dialogue.run, hvalue', Except.mapError]

theorem report (event event' : Event) :
    Concur answer answer' (fun _ _ => True) (ε := ε) (ExceptT.lift (Dialogue.emit event))
      (ExceptT.lift (Dialogue.emit event')) :=
  fun _ _ => ⟨(), (), rfl, rfl, trivial⟩

/-- What an inquiry hears, the service hears. -/
theorem ofInquiry {inquiry : Inquiry α} {inquiry' : Inquiry β}
    (h : Concur answer answer' related inquiry inquiry') :
    Concur answer answer' related (Service.Call.ofInquiry inquiry)
      (Service.Call.ofInquiry inquiry') := by
  intro state state'
  obtain ⟨value, value', hvalue, hvalue', hrelated⟩ := h state state'
  have hheard := Service.transcript_ofInquiry (Dialogue.transcript_of_result hvalue)
  have hheard' := Service.transcript_ofInquiry (Dialogue.transcript_of_result hvalue')
  exact ⟨value, value', congrArg Transcript.result hheard, congrArg Transcript.result hheard',
    hrelated⟩

end Concur

variable (alike : AnswerAlike answer answer')

section Resolving

open Principal

/-- A set of tokens does not show in which order they were put in. -/
theorem Principal.addGrants_congr (actor : Actor) (held : PrincipalSet)
    {grants others : List Grant} (h : ∀ grant, grant ∈ grants ↔ grant ∈ others) :
    addGrants actor grants held = addGrants actor others held := by
  apply SortedSet.eq_of_mem_iff
  intro token
  simp only [addGrants, Store.mem_insertTokens, List.mem_filter, h]

include alike

theorem concur_resolveActor (actor : Actor) (subject : Option String) :
    Concur answer answer' Eq (resolveActor actor subject) (resolveActor actor subject) := by
  cases subject with
  | none => exact .pure rfl
  | some subject =>
      refine .bind (.read alike (.actorGrants actor.id (some subject))) ?_
      intro direct direct' hdirect
      refine .bind (.read alike (.organizationGrants actor.id (some subject))) ?_
      intro inherited inherited' hinherited
      have hheld : ∀ grant, grant ∈ direct ++ inherited ↔ grant ∈ direct' ++ inherited' := by
        intro grant
        rw [List.mem_append, List.mem_append, hdirect grant, hinherited grant]
      have hprincipals :=
        addGrants_congr actor ((reserved actor).insert Token.authenticated) hheld
      refine .bind (.report _ _) fun _ _ _ => ?_
      exact .pure (congrArg (Resolution.resolved actor) hprincipals)

theorem concur_resolve (session : Option SessionId) (subject : Option String) :
    Concur answer answer' Eq (resolve session subject) (resolve session subject) := by
  cases session with
  | none => exact .pure rfl
  | some session =>
      refine .bind (.read alike (.actorForSession session)) ?_
      rintro actor _ rfl
      cases actor with
      | some actor => exact concur_resolveActor alike actor subject
      | none => exact .bind (.report _ _) fun _ _ _ => .pure rfl

end Resolving

section General

/-- Lists with the same entries, each of which allows. -/
structure SameEntries (acl acl' : List Acl.Entry) : Prop where
  members : ∀ entry, entry ∈ acl ↔ entry ∈ acl'
  allows : ∀ entry ∈ acl, entry.verdict = .allow

theorem SameEntries.refl {acl : List Acl.Entry} (h : ∀ entry ∈ acl, entry.verdict = .allow) :
    SameEntries acl acl :=
  ⟨fun _ => Iff.rfl, h⟩

/-- Which entry of such a list decides is of no account. -/
theorem concur_decide {acl acl' : List Acl.Entry} (h : SameEntries acl acl')
    (held : PrincipalSet) (action : String) :
    Concur answer answer' Eq (General.decide held action acl)
      (General.decide held action acl') := by
  intro state state'
  refine ⟨_, _, congrArg Dialogue.Run.result (General.run_decide held action acl state),
    congrArg Dialogue.Run.result (General.run_decide held action acl' state'), ?_⟩
  exact (Acl.decisive?_allows_congr h.allows fun entry => (h.members entry).symm).symm

include alike

theorem concur_visibilityEntries (policy : Policy) (subject : String) (target : Target) :
    Concur answer answer' SameEntries (Acl.visibilityEntries policy subject target)
      (Acl.visibilityEntries policy subject target) := by
  have hnone : SameEntries [] [] := .refl fun _ hentry => absurd hentry List.not_mem_nil
  cases target with
  | creation => exact .pure hnone
  | single object => exact .pure hnone
  | composite id =>
      simp only [Acl.visibilityEntries]
      split
      · exact .pure hnone
      · refine .bind (.read alike (.visibility id)) ?_
        rintro state _ rfl
        split
        · refine .pure (.refl ?_)
          intro entry hentry
          simp only [Acl.readingEntries, List.mem_flatMap, List.mem_map] at hentry
          obtain ⟨principal, _, action, _, rfl⟩ := hentry
          rfl
        · exact .pure hnone

theorem concur_ofGrants (policy : Policy) (subject : String) (target : Target) :
    Concur answer answer' SameEntries (Acl.ofGrants policy subject target)
      (Acl.ofGrants policy subject target) := by
  refine .bind (concur_visibilityEntries alike policy subject target) ?_
  intro reading reading' hreading
  refine .bind (.read alike (.subjectGrants subject target)) ?_
  intro grants grants' hgrants
  refine .pure ⟨?_, ?_⟩
  · intro entry
    have hentries : entry ∈ grants.map Acl.Entry.ofGrant ↔
        entry ∈ grants'.map Acl.Entry.ofGrant := by
      simp only [List.mem_map, hgrants _]
    rw [List.mem_cons, List.mem_cons, List.mem_append, List.mem_append, hentries,
      hreading.members entry]
  · intro entry hentry
    rcases List.mem_cons.mp hentry with rfl | hrest
    · rfl
    · rcases List.mem_append.mp hrest with hreader | hgrant
      · exact hreading.allows entry hreader
      · obtain ⟨grant, _, rfl⟩ := List.mem_map.mp hgrant
        rfl

theorem General.concur_check (policy : Policy) (request : Request) :
    Concur answer answer' Eq (General.check policy request) (General.check policy request) := by
  refine .bind (concur_resolve alike request.session (some request.subject)) ?_
  rintro resolution _ rfl
  refine .bind (concur_ofGrants alike policy request.subject request.target) ?_
  intro acl acl' hacl
  exact concur_decide hacl resolution.held request.action

end General

namespace Direct

include alike

theorem concur_publiclyVisible (action : String) (target : Target) :
    Concur answer answer' Eq (publiclyVisible action target) (publiclyVisible action target) := by
  cases target with
  | creation => exact .pure rfl
  | single object => exact .pure rfl
  | composite id =>
      simp only [publiclyVisible]
      split
      · refine .bind (.read alike (.visibility id)) ?_
        rintro state _ rfl
        exact .pure rfl
      · exact .pure rfl

theorem concur_checkAnonymous (policy : Policy) (request : Request) :
    Concur answer answer' Eq (checkAnonymous policy request) (checkAnonymous policy request) := by
  unfold checkAnonymous
  split
  · exact concur_publiclyVisible alike request.action request.target
  · exact .pure rfl

theorem concur_checkGrants (actor : Actor) (request : Request) :
    Concur answer answer' Eq (checkGrants actor request) (checkGrants actor request) := by
  simp only [checkGrants]
  split
  · exact .pure rfl
  · refine .bind (.read alike (.grantExistsForActor _ actor.id)) ?_
    rintro own _ rfl
    split
    · exact .pure rfl
    · split
      · exact .pure rfl
      · exact .read alike (.grantExistsForOrganizations _ actor.id)

theorem concur_checkActor (policy : Policy) (actor : Actor) (request : Request) :
    Concur answer answer' Eq (checkActor policy actor request)
      (checkActor policy actor request) := by
  unfold checkActor
  split
  · exact .pure rfl
  · split
    · refine .bind (concur_publiclyVisible alike request.action request.target) ?_
      rintro readable _ rfl
      split
      · exact .pure rfl
      · exact concur_checkGrants alike actor request
    · exact concur_checkGrants alike actor request

theorem concur_check (policy : Policy) (request : Request) :
    Concur answer answer' Eq (check policy request) (check policy request) := by
  unfold check
  split
  · exact concur_checkAnonymous alike policy request
  · next session _ =>
      refine .bind (.read alike (.actorForSession session)) ?_
      rintro actor _ rfl
      cases actor with
      | none => exact concur_checkAnonymous alike policy request
      | some actor => exact concur_checkActor alike policy actor request

end Direct

namespace Service

variable (service : Service)

theorem result_effectiveSession (raw : Option SessionId) (cookie : Option String)
    (answer : (read : Read) → σ → read.Answer × σ) (state : σ) :
    ((service.effectiveSession raw cookie).run.run answer state).result =
      .ok (SessionId.inEffect service.desktop raw cookie) :=
  congrArg Transcript.result
    (Dialogue.transcript_map Except.ok (transcript_effectiveSession service.desktop raw cookie))

/-- A store is not asked which session takes effect. -/
theorem concur_effectiveSession (raw : Option SessionId) (cookie : Option String) :
    Concur answer answer' Eq (service.effectiveSession raw cookie)
      (service.effectiveSession raw cookie) := by
  intro state state'
  exact ⟨_, _, service.result_effectiveSession raw cookie answer state,
    service.result_effectiveSession raw cookie answer' state', rfl⟩

theorem concur_conclude (evaluator : Evaluator) (request : Request) (allowed : Bool) :
    Concur answer answer' Eq (conclude evaluator request allowed)
      (conclude evaluator request allowed) :=
  .bind (.report _ _) fun _ _ _ => .pure rfl

/-- The request is the same, whichever store it is for. -/
theorem concur_requestThen {next : Request → Call Bool} (input : CheckInput)
    (h : ∀ request, Concur answer answer' Eq (next request) (next request)) :
    Concur answer answer' Eq (service.request input >>= next) (service.request input >>= next) := by
  have hrequest : Concur answer answer' Eq (service.request input) (service.request input) := by
    refine .bind (service.concur_effectiveSession input.session input.cookie) ?_
    rintro session _ rfl
    exact .pure rfl
  refine hrequest.bind ?_
  rintro request _ rfl
  exact h request

include alike

theorem concur_checkPermission (input : CheckInput) :
    Concur answer answer' Eq (service.checkPermission input) (service.checkPermission input) := by
  have hgeneral (request : Request) :
      Concur answer answer' Eq (service.evaluateGeneral request)
        (service.evaluateGeneral request) :=
    .ofInquiry (General.concur_check alike service.policy request)
  have hdirect (request : Request) :
      Concur answer answer' Eq (service.evaluateDirect request)
        (service.evaluateDirect request) :=
    .ofInquiry (Direct.concur_check alike service.policy request)
  unfold checkPermission
  cases service.evaluator with
  | general =>
      apply service.concur_requestThen
      intro request
      refine .bind (hgeneral request) ?_
      rintro allowed _ rfl
      exact concur_conclude .general request allowed
  | direct =>
      apply service.concur_requestThen
      intro request
      refine .bind (hdirect request) ?_
      rintro allowed _ rfl
      exact concur_conclude .direct request allowed
  | verify =>
      apply service.concur_requestThen
      intro request
      refine .bind (hgeneral request) ?_
      rintro general _ rfl
      refine .bind (hdirect request) ?_
      rintro direct _ rfl
      split
      · exact .bind (.report _ _) fun _ _ _ => concur_conclude .verify request _
      · exact concur_conclude .verify request _

theorem concur_resolvePrincipals (raw : Option SessionId) (cookie : Option String)
    (subject : Option String) :
    Concur answer answer' Eq (service.resolvePrincipals raw cookie subject)
      (service.resolvePrincipals raw cookie subject) := by
  refine .bind (service.concur_effectiveSession raw cookie) ?_
  rintro session _ rfl
  refine .bind (.ofInquiry (concur_resolve alike session subject)) ?_
  rintro resolution _ rfl
  cases resolution with
  | invalidSession session => exact .bind (.report _ _) fun _ _ _ => .pure rfl
  | anonymous => exact .pure rfl
  | resolved actor principals => exact .pure rfl

end Service

end AccessGrants
