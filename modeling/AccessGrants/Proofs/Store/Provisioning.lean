import AccessGrants.Proofs.Store.Allocation
import Mathlib.Data.List.Perm.Subperm

/-!
Attaching default grants. The owner of an instance ends up with one grant of
each default template, in the order of the templates; grants that were there
are used again, and nothing but the new grants and the links of the owner is
written. The grant of a template for a scope can be found again in every later
store, so provisioning once more gives the same grants and writes nothing, and
what is added meanwhile only makes the list longer.
-/

namespace AccessGrants.Store

/-- What provisioning comes to: the grants that it answers and the store after it. -/
structure Provisioned (store : Store) (kind : InstanceKind) (id : InstanceId) (owner : ActorId)
    (grants : List Grant) (after : Store) : Prop where
  /-- The grants are those of the stored default templates, one of each and in order. -/
  instantiates : ∃ templates, Enumerates Template.id templates (store.StoresDefault kind) ∧
    List.Forall₂ (fun template grant =>
      grant = ⟨grant.id, template.id, template.subject, template.action, .composite id⟩)
      templates grants
  ascending : grants.Pairwise fun first second => first.template.value < second.template.value
  /-- A grant that the template has for the instance is used again. -/
  reused : ∀ grant ∈ grants, ∀ old, store.StoresGrant old → old.template = grant.template →
    old.scope = grant.scope → old = grant
  /-- The grants that were not there take the next numbers, in order. -/
  numbered : (store.unused (grants.map fun grant => (.grant, grant.id.value))).map Int64.toInt =
    store.counted after
  stored : ∀ key grant, after.grants.get? key = some grant ↔
    store.grants.get? key = some grant ∨ grant ∈ grants ∧ grant.id = key
  held : ∀ link, link ∈ after.actorGrants ↔
    link ∈ store.actorGrants ∨ ∃ grant ∈ grants, link = ⟨owner, grant.id⟩
  /-- Nothing else is written. -/
  untouched : ∀ part ∉ [Part.grants, Part.actorGrants], after.content part = store.content part

variable {store after later : Store} {template : Template} {templates rest : List Template}
  {scope : Scope} {owner : ActorId}

section Finding

/-- Of a template and a scope there is at most one grant, so it is the one that
is found. -/
theorem grantForScope?_eq_some_iff (h : store.Integral) {template : TemplateId} {grant : Grant} :
    store.grantForScope? template scope = some grant ↔
      store.StoresGrant grant ∧ grant.template = template ∧ grant.scope = scope := by
  constructor
  · intro hfound
    obtain ⟨id, hrow, hfits⟩ := store.grantForScope?_eq_some hfound
    exact ⟨⟨id, hrow⟩, hfits⟩
  · rintro ⟨⟨id, hrow⟩, rfl, rfl⟩
    have hexists : (store.grantForScope? grant.template grant.scope).isSome = true :=
      store.grantForScope?_isSome_iff.mpr ⟨id, grant, hrow, rfl, rfl⟩
    obtain ⟨found, hfound⟩ := Option.isSome_iff_exists.mp hexists
    obtain ⟨other, hother, htemplate, hscope⟩ := store.grantForScope?_eq_some hfound
    have hsame : other = id :=
      h.unrepeated.grants other id found grant hother hrow (Prod.ext htemplate hscope)
    rw [hsame, hrow] at hother
    rw [hfound, hother]

/-- Each element of the one list has its partner in the other. -/
theorem exists_mem_of_forall₂ {α β : Type} {related : α → β → Prop} {first : List α}
    {second : List β} (h : List.Forall₂ related first second) {b : β} (mem : b ∈ second) :
    ∃ a ∈ first, related a b := by
  induction h with
  | nil => cases mem
  | @cons a b' _ _ hrelated _ ih =>
      rcases List.mem_cons.mp mem with rfl | hrest
      · exact ⟨a, List.mem_cons_self, hrelated⟩
      · obtain ⟨partner, hmem, hpartner⟩ := ih hrest
        exact ⟨partner, List.mem_cons_of_mem _ hmem, hpartner⟩

/-- A list of grants, one for each template, is found again template by template. -/
theorem eq_filterMap_of_forall₂ {find : Template → Option Grant} {grants : List Grant}
    (h : List.Forall₂ (fun template grant => find template = some grant) templates grants) :
    grants = templates.filterMap find := by
  induction h with
  | nil => rfl
  | cons hfound _ ih => rw [List.filterMap_cons_some hfound, ← ih]

end Finding

section Attaching

/-- The grant of a round is one of the template, whether it was there or is new:
a grant that was there has the subject and the action of its template. -/
theorem grantFor_eq_ofTemplate (instantiated : store.Instantiated)
    (stored : store.templates.get? template.id = some template) :
    (store.grantFor template scope).1 =
      Grant.ofTemplate (store.grantFor template scope).1.id template scope := by
  unfold grantFor
  split
  · next grant hfound =>
      obtain ⟨id, hrow, htemplate, hscope⟩ := store.grantForScope?_eq_some hfound
      obtain ⟨own, hown, hsubject, haction⟩ := instantiated id grant hrow
      rw [htemplate, stored, Option.some.injEq] at hown
      subst hown
      obtain ⟨_, _, _, _, _⟩ := grant
      simp only at htemplate hscope hsubject haction
      rw [htemplate, hscope, hsubject, haction]
      rfl
  · rfl

theorem attach_forall₂ (h : store.Attaching owner templates) (integral : store.Integral)
    (bound : (attach owner scope templates store).2.issued < numberLimit) :
    List.Forall₂ (fun template grant => grant = Grant.ofTemplate grant.id template scope)
      templates (attach owner scope templates store).1 := by
  induction templates generalizing store with
  | nil => exact .nil
  | cons template rest ih =>
      have hstored := h.stored template List.mem_cons_self
      have hchanges := h.head.changes scope
      have hrest := (h.tail scope).changes scope
      have hbefore := Nat.lt_of_le_of_lt (Changes.issued_le hrest) bound
      have hintegral := Changes.integral hchanges hbefore integral
      exact .cons (grantFor_eq_ofTemplate integral.instantiated hstored)
        (ih (h.tail scope) hintegral bound)

/-- A round adds its grant to those that are stored, and nothing else. -/
theorem Round.get?_grants {grant : Grant} (round : store.Round template grant after)
    (numbered : store.Numbered) (bound : after.issued < numberLimit) (key : GrantId)
    (row : Grant) :
    after.grants.get? key = some row ↔
      store.grants.get? key = some row ∨ row = grant ∧ row.id = key := by
  constructor
  · intro hrow
    rcases round.taken with ⟨_, hgrants, _⟩ | ⟨_, hgrants, _⟩
    · rw [hgrants] at hrow
      exact Or.inl hrow
    · rw [hgrants, Table.get?_insert] at hrow
      split at hrow
      · next hkey =>
          cases hrow
          exact Or.inr ⟨rfl, hkey⟩
      · exact Or.inl hrow
  · rintro (hrow | ⟨rfl, rfl⟩)
    · rcases round.taken with ⟨_, hgrants, _⟩ | ⟨hid, hgrants, hissued⟩
      · rw [hgrants]
        exact hrow
      · rw [hissued] at bound
        have hfresh : store.nextId ∉ store.grants := numbered.fresh bound rfl
        rw [hgrants, hid]
        exact Table.within_insert hfresh key row hrow
    · exact round.stored

theorem get?_grants_attach (h : store.Attaching owner templates) (integral : store.Integral)
    (bound : (attach owner scope templates store).2.issued < numberLimit) (key : GrantId)
    (row : Grant) :
    (attach owner scope templates store).2.grants.get? key = some row ↔
      store.grants.get? key = some row ∨
        row ∈ (attach owner scope templates store).1 ∧ row.id = key := by
  induction templates generalizing store with
  | nil => simp [attach]
  | cons template rest ih =>
      obtain ⟨grant, middle, hattach, hchanges, hmiddle, hround⟩ := attach_cons h scope
      rw [hattach] at bound ⊢
      have hbefore := Nat.lt_of_le_of_lt (Changes.issued_le (hmiddle.changes scope)) bound
      have hintegral := Changes.integral hchanges hbefore integral
      rw [ih hmiddle hintegral bound, hround.get?_grants integral.numbered hbefore,
        List.mem_cons, or_assoc, or_and_right]

theorem mem_actorGrants_attach_iff {link : Link .actor .grant} :
    link ∈ (attach owner scope templates store).2.actorGrants ↔
      link ∈ store.actorGrants ∨
        ∃ grant ∈ (attach owner scope templates store).1, link = ⟨owner, grant.id⟩ := by
  induction templates generalizing store with
  | nil => simp [attach]
  | cons template rest ih =>
      have huntouched : Part.actorGrants ≠ .grants := by decide
      have hsame : (store.grantFor template scope).2.actorGrants = store.actorGrants :=
        content_grantFor huntouched
      simp only [attach, ih, SortedSet.mem_insert, hsame, List.exists_mem_cons_iff]
      rw [or_assoc, or_left_comm]

/-- Where every template has its grant for the scope and the owner holds it,
there is nothing left to write. -/
theorem attach_of_held {grants : List Grant}
    (h : List.Forall₂
      (fun template grant => store.grantForScope? template.id scope = some grant)
      templates grants)
    (held : ∀ grant ∈ grants, ⟨owner, grant.id⟩ ∈ store.actorGrants) :
    attach owner scope templates store = (grants, store) := by
  induction h with
  | nil => rfl
  | @cons template grant rest grants hfound _ ih =>
      have hgrantFor : store.grantFor template scope = (grant, store) := by
        rw [grantFor, hfound]
      have hlink : store.actorGrants.insert ⟨owner, grant.id⟩ = store.actorGrants :=
        SortedSet.insert_of_mem (held grant List.mem_cons_self)
      have hrest := ih fun later hlater => held later (List.mem_cons_of_mem _ hlater)
      rw [attach, hgrantFor]
      simp only [hlink, hrest]

end Attaching

section Growing

/-- Templates are made and never changed, so the default ones of a later store
are those of an earlier one with others put in. -/
theorem defaultTemplates_sublist (grown : store.Extends later) (keyed : store.Keyed)
    (keyed' : later.Keyed) (kind : InstanceKind) :
    (store.defaultTemplates kind).Sublist (later.defaultTemplates kind) := by
  have hantisymm : Std.Antisymm fun first second : Template =>
      compare first.id second.id = .lt :=
    ⟨fun _ _ hlt hgt => absurd hgt (Std.OrientedCmp.not_lt_of_lt hlt)⟩
  have hearlier := defaultTemplates_enumerates keyed kind
  have hlater := defaultTemplates_enumerates keyed' kind
  refine List.sublist_of_subperm_of_pairwise (hearlier.nodup.subperm ?_)
    (List.pairwise_map.mp hearlier.ascending) (List.pairwise_map.mp hlater.ascending)
  intro template htemplate
  obtain ⟨⟨id, hstored⟩, hdefault⟩ := mem_defaultTemplates.mp htemplate
  exact mem_defaultTemplates.mpr ⟨⟨id, grown.templates id template hstored⟩, hdefault⟩

end Growing

section Provisioning

variable {kind : InstanceKind} {id : InstanceId}

theorem attaching_defaults (keyed : store.Keyed) (stored : owner ∈ store.actors)
    (kind : InstanceKind) : store.Attaching owner (store.defaultTemplates kind) where
  keyed := keyed
  owner := stored
  stored := fun _ htemplate => (mem_defaultTemplates.mp htemplate).get? keyed

theorem provisionDefaults_of_stored (stored : owner ∈ store.actors) (kind : InstanceKind)
    (id : InstanceId) :
    store.provisionDefaults kind id owner =
      (.ok (attach owner (.composite id) (store.defaultTemplates kind) store).1,
        (attach owner (.composite id) (store.defaultTemplates kind) store).2) := by
  rw [provisionDefaults, if_pos (Table.contains_iff.mpr stored)]

theorem provisioned_attach (integral : store.Integral) (stored : owner ∈ store.actors)
    (bound : (attach owner (.composite id) (store.defaultTemplates kind) store).2.issued <
      numberLimit) :
    store.Provisioned kind id owner
      (attach owner (.composite id) (store.defaultTemplates kind) store).1
      (attach owner (.composite id) (store.defaultTemplates kind) store).2 := by
  have hattaching := attaching_defaults integral.keyed stored kind
  have hchanges := hattaching.changes (.composite id)
  have hgrown := Changes.extends hchanges bound integral
  have hintegral := Changes.integral hchanges bound integral
  have hforall₂ := attach_forall₂ hattaching integral bound
  have hanswers := attach_answers hattaching integral bound
  have hlisted := defaultTemplates_enumerates integral.keyed kind
  refine ⟨⟨_, hlisted, hforall₂⟩, ?ascending, ?reused, ?numbered, ?stored, ?held, ?untouched⟩
  case ascending =>
    have hids : List.Forall₂ Eq ((store.defaultTemplates kind).map Template.id)
        ((attach owner (.composite id) (store.defaultTemplates kind) store).1.map
          Grant.template) := by
      rw [List.forall₂_map_left_iff, List.forall₂_map_right_iff]
      refine hforall₂.imp fun template grant hgrant => ?_
      rw [hgrant]
      rfl
    rw [List.forall₂_eq_eq_eq] at hids
    have hascending := hlisted.ascending
    rw [hids] at hascending
    refine (List.pairwise_map.mp hascending).imp ?_
    intro first second hlt
    exact Std.compare_eq_lt.mp hlt
  case reused =>
    intro grant hgrant old hold htemplate hscope
    have hfound := (grantForScope?_eq_some_iff hintegral).mpr
      ⟨⟨_, (hanswers grant hgrant).1⟩, rfl, rfl⟩
    have hfoundOld := (grantForScope?_eq_some_iff hintegral).mpr
      ⟨hold.extend hgrown, htemplate, hscope⟩
    rw [hfound, Option.some.injEq] at hfoundOld
    exact hfoundOld.symm
  case numbered =>
    exact attach_counted hattaching integral hlisted.nodup_map bound
  case stored =>
    intro key grant
    exact get?_grants_attach hattaching integral bound key grant
  case held => exact fun link => mem_actorGrants_attach_iff
  case untouched => exact fun part huntouched => content_attach huntouched

/-- Provisioning for an owner that is stored succeeds. -/
theorem write_provisioned (integral : store.Integral) (stored : owner ∈ store.actors)
    (bound : (store.write (.provisionDefaults kind id owner)).2.issued < numberLimit) :
    ∃ grants after, store.write (.provisionDefaults kind id owner) = (.ok grants, after) ∧
      store.Provisioned kind id owner grants after ∧ Changes store after ∧ after.Integral := by
  have hwrite := provisionDefaults_of_stored stored kind id
  have hchanges := (store.write_outcome integral.keyed (.provisionDefaults kind id owner)).changes
  have hintegral := Changes.integral hchanges bound integral
  simp only [Store.write, hwrite] at bound hchanges hintegral
  exact ⟨_, _, hwrite, provisioned_attach integral stored bound, hchanges, hintegral⟩

variable {grants again : List Grant} {final : Store}

/-- In every later store the grant of each of the templates is found. -/
theorem Provisioned.found (h : store.Provisioned kind id owner grants after)
    (keyed : store.Keyed) (grown : after.Extends later) (integral : later.Integral) :
    List.Forall₂
      (fun template grant => later.grantForScope? template.id (.composite id) = some grant)
      (store.defaultTemplates kind) grants := by
  obtain ⟨templates, hlisted, hforall₂⟩ := h.instantiates
  rw [(defaultTemplates_enumerates keyed kind).unique hlisted]
  refine List.forall₂_iff_zip.mpr ⟨hforall₂.length_eq, ?_⟩
  intro template grant hpair
  have hgrant := (List.forall₂_iff_zip.mp hforall₂).2 hpair
  have hrow := (h.stored grant.id grant).mpr (Or.inr ⟨(List.of_mem_zip hpair).2, rfl⟩)
  rw [grantForScope?_eq_some_iff integral]
  refine ⟨⟨_, grown.grants _ _ hrow⟩, ?_, ?_⟩
  · rw [hgrant]
  · rw [hgrant]

theorem Provisioned.defaultTemplates (h : store.Provisioned kind id owner grants after) :
    after.defaultTemplates kind = store.defaultTemplates kind := by
  have htemplates : after.templates = store.templates := h.untouched .templates (by decide)
  rw [Store.defaultTemplates, htemplates]
  rfl

theorem Provisioned.actors (h : store.Provisioned kind id owner grants after) :
    after.actors = store.actors :=
  h.untouched .actors (by decide)

/-- Provisioning a second time finds everything as the first time left it. -/
theorem Provisioned.repeated (h : store.Provisioned kind id owner grants after)
    (keyed : store.Keyed) (stored : owner ∈ store.actors) (integral : after.Integral) :
    after.provisionDefaults kind id owner = (.ok grants, after) := by
  have howner : owner ∈ after.actors := by
    rw [h.actors]
    exact stored
  have hheld : ∀ grant ∈ grants, ⟨owner, grant.id⟩ ∈ after.actorGrants :=
    fun grant hgrant => (h.held _).mpr (Or.inr ⟨grant, hgrant, rfl⟩)
  have hfound := h.found keyed (.refl after) integral
  rw [← h.defaultTemplates] at hfound
  rw [provisionDefaults_of_stored howner, attach_of_held hfound hheld]

/-- Of two provisionings the later one answers what the earlier one did, with
the grants of the templates that were made meanwhile. -/
theorem Provisioned.sublist (h : store.Provisioned kind id owner grants after)
    (h' : later.Provisioned kind id owner again final) (grown : after.Extends later)
    (grown' : later.Extends final) (keyed : store.Keyed) (keyed' : after.Keyed)
    (keyed'' : later.Keyed) (integral : final.Integral) : grants.Sublist again := by
  rw [eq_filterMap_of_forall₂ (h.found keyed (grown.trans grown') integral),
    eq_filterMap_of_forall₂ (h'.found keyed'' (.refl final) integral), ← h.defaultTemplates]
  exact (defaultTemplates_sublist grown keyed' keyed'' kind).filterMap _

end Provisioning

/-- After any writes, provisioning for an owner that is stored answers one grant
of each default template, uses again what is there and writes what is missing and
the links of the owner. It may be repeated at once without any effect, and after
any further writes it answers the same grants among others. The counter has to
stay within the signed words. -/
theorem provisioning_complete_and_repeatable (writes : List Write) (kind : InstanceKind)
    (id : InstanceId) (owner : ActorId) (stored : owner ∈ (empty.after writes).actors)
    (bound : ((empty.after writes).write (.provisionDefaults kind id owner)).2.issued <
      numberLimit) :
    ∃ grants after,
      (empty.after writes).write (.provisionDefaults kind id owner) = (.ok grants, after) ∧
        (empty.after writes).Provisioned kind id owner grants after ∧
        after.write (.provisionDefaults kind id owner) = (.ok grants, after) ∧
        ∀ later : List Write,
          ((after.after later).write (.provisionDefaults kind id owner)).2.issued < numberLimit →
            ∃ again, ((after.after later).write (.provisionDefaults kind id owner)).1 = .ok again ∧
              grants.Sublist again := by
  have hkeyed := keyed_after writes
  have hbefore := Nat.lt_of_le_of_lt (issued_le_write hkeyed _) bound
  have hintegral := integral_after_writes integral_empty writes hbefore
  obtain ⟨grants, after, hwrite, hprovisioned, _, hafter⟩ :=
    write_provisioned hintegral stored bound
  refine ⟨grants, after, hwrite, hprovisioned, hprovisioned.repeated hkeyed stored hafter, ?_⟩
  intro later hbound
  have hmiddle := after_changes hafter.keyed later
  have hlaterKeyed := Changes.keyed hmiddle hafter.keyed
  have hlaterBound := Nat.lt_of_le_of_lt (issued_le_write hlaterKeyed _) hbound
  have hgrown := Changes.extends hmiddle hlaterBound hafter
  have hlater := Changes.integral hmiddle hlaterBound hafter
  have howner : owner ∈ (after.after later).actors := by
    apply hgrown.actors
    rw [hprovisioned.actors]
    exact stored
  obtain ⟨again, final, hagain, hprovisioned', hlast, hfinal⟩ :=
    write_provisioned hlater howner hbound
  rw [hagain] at hbound ⊢
  exact ⟨again, rfl, hprovisioned.sublist hprovisioned' hgrown
    (Changes.extends hlast hbound hlater) hkeyed hafter.keyed hlaterKeyed hfinal⟩

/-- Of two default templates the later one has its grant for an instance already. -/
def halfProvisioned : List Write :=
  [.createActor, .createTemplate "perspective" "edit" [.perspective],
    .createTemplate "perspective" "view" [.perspective], .createGrant ⟨3⟩ (.composite ⟨9, 1⟩)]

/-- The grant that was there keeps its number and stands behind the new one. -/
theorem half_provisioned_completed :
    (⟨1⟩ : ActorId) ∈ (empty.after halfProvisioned).actors ∧
      ((empty.after halfProvisioned).write (.provisionDefaults .perspective ⟨9, 1⟩ ⟨1⟩)).2.issued <
        numberLimit ∧
      ∃ grants after,
        grants = [⟨⟨5⟩, ⟨2⟩, "perspective", "edit", .composite ⟨9, 1⟩⟩,
          ⟨⟨4⟩, ⟨3⟩, "perspective", "view", .composite ⟨9, 1⟩⟩] ∧
        (empty.after halfProvisioned).write (.provisionDefaults .perspective ⟨9, 1⟩ ⟨1⟩) =
            (.ok grants, after) ∧
          (empty.after halfProvisioned).Provisioned .perspective ⟨9, 1⟩ ⟨1⟩ grants after ∧
          after.write (.provisionDefaults .perspective ⟨9, 1⟩ ⟨1⟩) = (.ok grants, after) ∧
          ∀ later : List Write,
            ((after.after later).write (.provisionDefaults .perspective ⟨9, 1⟩ ⟨1⟩)).2.issued <
                numberLimit →
              ∃ again,
                ((after.after later).write (.provisionDefaults .perspective ⟨9, 1⟩ ⟨1⟩)).1 =
                    .ok again ∧
                  grants.Sublist again := by
  have hstored : (⟨1⟩ : ActorId) ∈ (empty.after halfProvisioned).actors :=
    Table.contains_iff.mp (by decide)
  have hbound : ((empty.after halfProvisioned).write
      (.provisionDefaults .perspective ⟨9, 1⟩ ⟨1⟩)).2.issued < numberLimit := by decide
  obtain ⟨grants, after, hwrite, hrest⟩ :=
    provisioning_complete_and_repeatable halfProvisioned .perspective ⟨9, 1⟩ ⟨1⟩ hstored hbound
  have hanswer : Except.ok grants =
      ((empty.after halfProvisioned).write (.provisionDefaults .perspective ⟨9, 1⟩ ⟨1⟩)).1 :=
    (congrArg Prod.fst hwrite).symm
  exact ⟨hstored, hbound, grants, after, Except.ok.inj hanswer, hwrite, hrest⟩

end AccessGrants.Store
