import AccessGrants.Store.State

/-!
Writing to a store. Every write answers its result or a refusal together with
the store it leaves. A write looks for everything it needs before it changes
anything, so a refused write takes no identifier and leaves no row behind.
-/

namespace AccessGrants.Store

/-- What a write leaves: its answer and the store after it. -/
abbrev Written (α : Type) : Type := Except StorageError α × Store

def createActor (store : Store) : Written Actor :=
  let actor := Actor.new store.nextId
  (.ok actor,
    { store with issued := store.issued + 1, actors := store.actors.insert actor.id actor })

def updateActor (store : Store) (id : ActorId) (change : Actor → Actor) : Written Unit :=
  match store.actors.get? id with
  | some actor => (.ok (), { store with actors := store.actors.insert id (change actor) })
  | none => (.error (.notFound id.label), store)

def setActorActive (store : Store) (id : ActorId) (active : Bool) : Written Unit :=
  store.updateActor id fun actor => { actor with active := active }

def setActorSuperuser (store : Store) (id : ActorId) (superuser : Bool) : Written Unit :=
  store.updateActor id fun actor => { actor with superuser := superuser }

def openSession (store : Store) (actor : ActorId) : Written SessionId :=
  if store.actors.contains actor then
    let session : SessionId := store.nextId
    (.ok session,
      { store with issued := store.issued + 1, sessions := store.sessions.insert session actor })
  else (.error (.notFound actor.label), store)

/-- Organization names are unique. -/
def createOrganization (store : Store) (name : String) : Written OrganizationId :=
  if store.organizations.values.contains name then
    (.error (.duplicate ("organization " ++ name)), store)
  else
    let organization : OrganizationId := store.nextId
    (.ok organization,
      { store with
        issued := store.issued + 1
        organizations := store.organizations.insert organization name })

/-- A missing organization is reported before a missing actor. -/
def addMember (store : Store) (organization : OrganizationId) (actor : ActorId) : Written Unit :=
  if !store.organizations.contains organization then
    (.error (.notFound organization.label), store)
  else if !store.actors.contains actor then (.error (.notFound actor.label), store)
  else (.ok (), { store with members := store.members.insert ⟨organization, actor⟩ })

/-- A pair of subject and action has at most one template. -/
def createTemplate (store : Store) (subject action : String) (defaults : List InstanceKind) :
    Written Template :=
  if store.templates.values.any fun row => row.subject == subject && row.action == action then
    (.error (.duplicate ("template " ++ action ++ ":" ++ subject)), store)
  else
    let template := Template.new store.nextId subject action defaults
    (.ok template,
      { store with
        issued := store.issued + 1
        templates := store.templates.insert template.id template })

/-- Stores the grant of a template for a scope that has none yet. -/
def addGrant (store : Store) (template : Template) (scope : Scope) : Grant × Store :=
  let grant := Grant.ofTemplate store.nextId template scope
  (grant, { store with issued := store.issued + 1, grants := store.grants.insert grant.id grant })

/-- A missing template is reported before a grant that is there already. -/
def createGrant (store : Store) (id : TemplateId) (scope : Scope) : Written Grant :=
  match store.templates.get? id with
  | none => (.error (.notFound id.label), store)
  | some template =>
    if (store.grantForScope? template.id scope).isSome then
      (.error (.duplicate ("grant of " ++ template.id.label ++ " for this scope")), store)
    else
      let (grant, after) := store.addGrant template scope
      (.ok grant, after)

/-- The grant of a template for a scope, stored first if there is none. -/
def grantFor (store : Store) (template : Template) (scope : Scope) : Grant × Store :=
  match store.grantForScope? template.id scope with
  | some grant => (grant, store)
  | none => store.addGrant template scope

/-- Instantiates templates for one scope, one after the other, and links each
of the grants to the owner. -/
def attach (owner : ActorId) (scope : Scope) : List Template → Store → List Grant × Store
  | [], store => ([], store)
  | template :: rest, store =>
    let (grant, stored) := store.grantFor template scope
    let linked := { stored with actorGrants := stored.actorGrants.insert ⟨owner, grant.id⟩ }
    let (grants, after) := attach owner scope rest linked
    (grant :: grants, after)

/-- Grants that exist for the instance already are used again. -/
def provisionDefaults (store : Store) (kind : InstanceKind) (id : InstanceId) (owner : ActorId) :
    Written (List Grant) :=
  if store.actors.contains owner then
    let (grants, after) := attach owner (.composite id) (store.defaultTemplates kind) store
    (.ok grants, after)
  else (.error (.notFound owner.label), store)

/-- A missing grant is reported before a missing actor. -/
def assignToActor (store : Store) (grant : GrantId) (actor : ActorId) : Written Unit :=
  if !store.grants.contains grant then (.error (.notFound grant.label), store)
  else if !store.actors.contains actor then (.error (.notFound actor.label), store)
  else (.ok (), { store with actorGrants := store.actorGrants.insert ⟨actor, grant⟩ })

/-- A missing grant is reported before a missing organization. -/
def assignToOrganization (store : Store) (grant : GrantId) (organization : OrganizationId) :
    Written Unit :=
  if !store.grants.contains grant then (.error (.notFound grant.label), store)
  else if !store.organizations.contains organization then
    (.error (.notFound organization.label), store)
  else
    (.ok (),
      { store with organizationGrants := store.organizationGrants.insert ⟨organization, grant⟩ })

def setVisibility (store : Store) (id : InstanceId) (state : Visibility) : Written Unit :=
  (.ok (), { store with visibility := store.visibility.insert id state })

def write (store : Store) : (write : Write) → Written write.Result
  | .createActor => store.createActor
  | .setActorActive actor active => store.setActorActive actor active
  | .setActorSuperuser actor superuser => store.setActorSuperuser actor superuser
  | .openSession actor => store.openSession actor
  | .createOrganization name => store.createOrganization name
  | .addMember organization actor => store.addMember organization actor
  | .createTemplate subject action defaults => store.createTemplate subject action defaults
  | .defaultTemplates kind => (.ok (store.defaultTemplates kind), store)
  | .createGrant template scope => store.createGrant template scope
  | .provisionDefaults kind id owner => store.provisionDefaults kind id owner
  | .assignToActor grant actor => store.assignToActor grant actor
  | .assignToOrganization grant organization => store.assignToOrganization grant organization
  | .setVisibility id state => store.setVisibility id state

end AccessGrants.Store
