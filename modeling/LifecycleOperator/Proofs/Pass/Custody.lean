import LifecycleOperator.Proofs.Pass.Adoption
import LifecycleOperator.Proofs.Pass.Completion
import LifecycleOperator.Proofs.Pass.Traversal

/-!
# Who controls the secrets

An installation adopts its secrets one after the other.  A secret that is there and has
no owner of its identity is written back, with the installation as its only controller;
any other secret is passed over, and so is one at which a call fails.  So what becomes of
a secret depends on this secret alone, and what has been adopted once is left alone from
then on.  But it is left alone as well if the installation is among its owners without
controlling it, and then it does not come to be controlled.
-/

namespace LifecycleOperator

namespace Metadata

/-- An owner of this identity controls, and it is the only one that does. -/
def IsControlledBy (metadata : Metadata) (uid : String) : Prop :=
  (metadata.owners.filter OwnerReference.isController).map OwnerReference.uid = [uid]

instance (metadata : Metadata) (uid : String) : Decidable (metadata.IsControlledBy uid) :=
  inferInstanceAs (Decidable (_ = _))

/-- An owner of this identity is among the owners, but does not control. -/
def IsHeldBy (metadata : Metadata) (uid : String) : Prop :=
  metadata.isOwnedBy uid = true ∧
    ∀ owner ∈ metadata.owners, owner.uid = uid → owner.isController = false

/-- Who is not among the owners has the identity of none of them. -/
theorem isOwnedBy_eq_false_iff {metadata : Metadata} {uid : String} :
    metadata.isOwnedBy uid = false ↔ ∀ owner ∈ metadata.owners, owner.uid ≠ uid := by
  simp [isOwnedBy]

/-- A controller that adopts is the only one that controls. -/
theorem isControlledBy_adoptedBy
    (metadata : Metadata) {reference : OwnerReference}
    (controls : reference.isController = true) :
    (metadata.adoptedBy reference).IsControlledBy reference.uid := by
  have others : (metadata.owners.filter fun owner => !owner.isController).filter
      OwnerReference.isController = [] := by
    simp [List.filter_filter]
  rw [IsControlledBy, adoptedBy, owners, Option.getD_some, List.filter_append, others,
    List.nil_append, List.filter_cons_of_pos controls]
  rfl

/-- Who adopts is among the owners from then on. -/
theorem isOwnedBy_adoptedBy (metadata : Metadata) (reference : OwnerReference) :
    (metadata.adoptedBy reference).isOwnedBy reference.uid = true := by
  simp [isOwnedBy, adoptedBy, owners]

/-- Where one owner controls at most, it is the only one that does. -/
theorem isControlledBy_iff
    {metadata : Metadata} {uid : String}
    (single : (metadata.owners.filter OwnerReference.isController).length ≤ 1) :
    metadata.IsControlledBy uid ↔
      ∃ owner ∈ metadata.owners, owner.uid = uid ∧ owner.isController = true := by
  have isMember : ∀ owner, owner ∈ metadata.owners.filter OwnerReference.isController ↔
      owner ∈ metadata.owners ∧ owner.isController = true := fun owner => List.mem_filter
  unfold IsControlledBy
  generalize metadata.owners.filter OwnerReference.isController = controllers at single isMember
  match controllers with
  | [] =>
      simp only [List.map_nil, List.nil_eq, reduceCtorEq, false_iff, not_exists, not_and]
      intro owner member _ controls
      exact List.not_mem_nil ((isMember owner).mpr ⟨member, controls⟩)
  | [controller] =>
      simp only [List.map_cons, List.map_nil, List.cons.injEq, and_true]
      constructor
      · rintro rfl
        obtain ⟨member, controls⟩ := (isMember controller).mp List.mem_cons_self
        exact ⟨controller, member, rfl, controls⟩
      · rintro ⟨owner, member, rfl, controls⟩
        rw [List.mem_singleton.mp ((isMember owner).mpr ⟨member, controls⟩)]

/-- Who is among the owners holds without control, or one of its references controls. -/
theorem not_isHeldBy_iff {metadata : Metadata} {uid : String} :
    ¬ metadata.IsHeldBy uid ↔ metadata.isOwnedBy uid = false ∨
      ∃ owner ∈ metadata.owners, owner.uid = uid ∧ owner.isController = true := by
  simp only [IsHeldBy, not_and_or, Bool.not_eq_true, not_forall, exists_prop, Bool.not_eq_false]

end Metadata

/-- Every secret lies under its own name. -/
def Store.PlacesSecrets (store : Store) : Prop :=
  ∀ (namespaceName name : String) (secret : Object .secret),
    store.find? ⟨.secret, namespaceName, name⟩ = some secret →
      secret.metadata.name.getD "" = name

/-- A secret that is found is the one that was put there last, or was there before. -/
theorem Store.secret_of_find?_insert
    {store : Store} {namespaceName otherNamespace name : String}
    {secret other : Object .secret}
    (found : (store.insert namespaceName secret).find? ⟨.secret, otherNamespace, name⟩ =
      some other) :
    secret.metadata.name.getD "" = name ∧ other = secret ∨
      store.find? ⟨.secret, otherNamespace, name⟩ = some other := by
  unfold Store.insert at found
  by_cases same : (⟨.secret, namespaceName, secret.metadata.name.getD ""⟩ : Key) =
      ⟨.secret, otherNamespace, name⟩
  · obtain ⟨-, rfl, rfl⟩ := Key.mk.injEq .. ▸ same
    rw [find?_put_self] at found
    exact .inl ⟨rfl, (Option.some.inj found).symm⟩
  · rw [find?_put_of_ne store secret same] at found
    exact .inr found

/-- Secrets are put under their own names. -/
theorem Store.PlacesSecrets.insert
    {store : Store} (placed : store.PlacesSecrets) (namespaceName : String)
    (secret : Object .secret) :
    (store.insert namespaceName secret).PlacesSecrets := by
  intro otherNamespace name other stored
  rcases secret_of_find?_insert stored with ⟨place, rfl⟩ | former
  · exact place
  · exact placed otherNamespace name other former

/-- Where every object lies under its own name, every secret does. -/
theorem Store.WellNamed.placesSecrets {store : Store} (wellNamed : store.WellNamed) :
    store.PlacesSecrets :=
  fun namespaceName name secret => wellNamed ⟨.secret, namespaceName, name⟩ secret

namespace Pass

namespace Exchange

/-- The object that could not be looked up, or not be replaced. -/
def hindrance? : Exchange → Option Key
  | ⟨.cluster (.lookup kind namespaceName name), .error _⟩ => some ⟨kind, namespaceName, name⟩
  | ⟨.cluster (.replace kind namespaceName name _), .error _⟩ =>
      some ⟨kind, namespaceName, name⟩
  | _ => none

/-- The place to which an object was written back. -/
def written? : Exchange → Option Key
  | ⟨.cluster (.replace kind namespaceName _ object), .ok _⟩ =>
      some ⟨kind, namespaceName, object.metadata.name.getD ""⟩
  | _ => none

end Exchange

/-- The objects that could not be looked up or replaced, in order. -/
def hindrances (transcript : List Exchange) : List Key :=
  transcript.filterMap Exchange.hindrance?

/-- The places to which objects were written back, in order. -/
def written (transcript : List Exchange) : List Key :=
  transcript.filterMap Exchange.written?

@[simp] theorem hindrances_append (front back : List Exchange) :
    hindrances (front ++ back) = hindrances front ++ hindrances back :=
  List.filterMap_append

@[simp] theorem written_append (front back : List Exchange) :
    written (front ++ back) = written front ++ written back :=
  List.filterMap_append

/-- A secret with another controller. -/
def adoptedSecret (reference : OwnerReference) (secret : Object .secret) : Object .secret :=
  { secret with metadata := secret.metadata.adoptedBy reference }

/-! ## One secret -/

/-- What adopting a secret does to a store: what fails, what is written and what is left. -/
inductive Custody (installation : Installation) (reference : OwnerReference) (name : String)
    (store : Store) : List Key → List Key → Store → Prop
  /-- A call fails, and nothing is changed. -/
  | hindered : Custody installation reference name store [installation.secretKey name] [] store
  /-- There is no secret, or the owner is among its owners already. -/
  | settled
      (owned : ∀ secret, store.find? (installation.secretKey name) = some secret →
        secret.metadata.isOwnedBy reference.uid = true) :
      Custody installation reference name store [] [] store
  /-- The secret is written back under the name that it carries. -/
  | adopted (secret : Object .secret)
      (found : store.find? (installation.secretKey name) = some secret)
      (notOwned : secret.metadata.isOwnedBy reference.uid = false) :
      Custody installation reference name store []
        [installation.secretKey (secret.metadata.name.getD "")]
        (store.insert installation.namespaceName (adoptedSecret reference secret))

namespace Adopting

variable {installation : Installation} {reference : OwnerReference} {name : String}
  {transcript : List Exchange}

/-- Adopting a secret fails at this secret at most. -/
theorem hindrances_subset (adopting : Adopting installation reference name transcript) :
    hindrances transcript ⊆ [installation.secretKey name] := by
  cases adopting with
  | unreadable | unwritable => exact List.Subset.refl _
  | missing | owned | adopted => exact List.nil_subset _

/-- Adopting a secret changes a store in one of these ways. -/
theorem custody
    {permitted : ClusterCall → Verdict → Prop} {store after : Store}
    (adopting : Adopting installation reference name transcript)
    (explains : Store.Explains permitted store transcript after) :
    Custody installation reference name store (hindrances transcript) (written transcript)
      after := by
  cases adopting with
  | unreadable =>
      obtain ⟨-, rfl⟩ := explains.lookup
      exact .hindered
  | missing =>
      obtain ⟨found, rfl⟩ := explains.lookup
      refine .settled fun secret stored => ?_
      rw [found _ rfl] at stored
      cases stored
  | owned secret isOwned =>
      obtain ⟨found, rfl⟩ := explains.lookup
      refine .settled fun other stored => ?_
      rw [found _ rfl, Option.some.injEq] at stored
      exact stored ▸ isOwned
  | unwritable secret notOwned fault =>
      obtain ⟨-, last, replaced, rfl⟩ := explains.lookup
      rw [replaced.replace_error]
      exact .hindered
  | adopted secret notOwned answer told =>
      obtain ⟨found, next, replaced, publishes⟩ := explains.lookup
      obtain rfl := publishes.publish
      rw [replaced.replace_ok]
      exact .adopted secret (found _ rfl) notOwned

/-- A secret that is owned already is not written, and nothing is told of it. -/
theorem idle
    {permitted : ClusterCall → Verdict → Prop} {store after : Store}
    (adopting : Adopting installation reference name transcript)
    (owned : ∀ secret, store.find? (installation.secretKey name) = some secret →
      secret.metadata.isOwnedBy reference.uid = true)
    (explains : Store.Explains permitted store transcript after) :
    Idle store transcript after ∧
      ∀ exchange ∈ transcript, exchange.isPublication = false := by
  cases adopting with
  | unreadable | missing | owned =>
      obtain ⟨-, rfl⟩ := explains.lookup
      simp [Idle, Exchange.mutates, Operation.ofCall?, Operation.isMutation,
        Exchange.isPublication]
  | unwritable secret notOwned | adopted secret notOwned =>
      rw [owned secret (explains.lookup.1 _ rfl)] at notOwned
      cases notOwned

end Adopting

/-- What becomes of a secret that is to be adopted. -/
def fate (reference : OwnerReference) (hindered : Bool) (secret : Object .secret) :
    Object .secret :=
  if hindered || secret.metadata.isOwnedBy reference.uid then secret
  else adoptedSecret reference secret

/-- A secret at which nothing failed has the owner. -/
theorem isOwnedBy_fate (reference : OwnerReference) (secret : Object .secret) :
    (fate reference false secret).metadata.isOwnedBy reference.uid = true := by
  unfold fate
  split
  · rename_i isOwned
    simpa using isOwned
  · exact secret.metadata.isOwnedBy_adoptedBy reference

/-- A secret that lies under its own name is written back to its place. -/
theorem insert_adoptedSecret
    {installation : Installation} {reference : OwnerReference} {name : String} {store : Store}
    {secret : Object .secret}
    (placed : store.PlacesSecrets)
    (found : store.find? (installation.secretKey name) = some secret) :
    store.insert installation.namespaceName (adoptedSecret reference secret) =
      store.put (installation.secretKey name) (adoptedSecret reference secret) := by
  have sameName : (adoptedSecret reference secret).metadata.name = secret.metadata.name := rfl
  rw [Store.insert, sameName, placed _ _ secret found]

/-- A secret at which nothing failed is controlled, unless it was held without control. -/
theorem isControlledBy_fate
    {reference : OwnerReference} {secret : Object .secret}
    (controls : reference.isController = true)
    (single : (secret.metadata.owners.filter OwnerReference.isController).length ≤ 1) :
    (fate reference false secret).metadata.IsControlledBy reference.uid ↔
      ¬ secret.metadata.IsHeldBy reference.uid := by
  rw [Metadata.not_isHeldBy_iff, ← Metadata.isControlledBy_iff single]
  cases isOwned : secret.metadata.isOwnedBy reference.uid with
  | true => simp [fate, isOwned]
  | false =>
      have adopted : fate reference false secret = adoptedSecret reference secret := by
        simp [fate, isOwned]
      rw [adopted]
      exact iff_of_true (secret.metadata.isControlledBy_adoptedBy controls) (.inl rfl)

namespace Custody

variable {installation : Installation} {reference : OwnerReference} {name : String}
  {store after : Store} {failed wrote : List Key}

/-- Where secrets lie under their own names, no other secret is changed. -/
theorem find?_of_ne
    (placed : store.PlacesSecrets)
    (custody : Custody installation reference name store failed wrote after)
    {key : Key}
    (different : installation.secretKey name ≠ key) :
    after.find? key = store.find? key := by
  cases custody with
  | hindered | settled => rfl
  | adopted secret found notOwned =>
      rw [insert_adoptedSecret placed found]
      exact Store.find?_put_of_ne store (adoptedSecret reference secret) different

/-- Where secrets lie under their own names, a secret meets its fate. -/
theorem find?_eq
    (placed : store.PlacesSecrets)
    (custody : Custody installation reference name store failed wrote after) :
    after.find? (installation.secretKey name) =
      (store.find? (installation.secretKey name)).map
        (fate reference (installation.secretKey name ∈ failed)) := by
  cases custody with
  | hindered =>
      have stays : ∀ secret, fate reference true secret = secret := fun secret => rfl
      simp [funext stays]
  | settled owned =>
      cases stored : store.find? (installation.secretKey name) with
      | none => rfl
      | some secret => simp [fate, owned secret stored]
  | adopted secret found notOwned =>
      have changed : fate reference false secret = adoptedSecret reference secret := by
        simp [fate, notOwned]
      rw [insert_adoptedSecret placed found, Store.find?_put_self, found]
      simp [changed]

/-- Where secrets lie under their own names, they go on to do so. -/
theorem placesSecrets
    (placed : store.PlacesSecrets)
    (custody : Custody installation reference name store failed wrote after) :
    after.PlacesSecrets := by
  cases custody with
  | hindered | settled => exact placed
  | adopted secret found notOwned => exact placed.insert _ (adoptedSecret reference secret)

/-- A secret is left as it is, or comes under the control of who adopts. -/
theorem controlled
    (controls : reference.isController = true)
    (custody : Custody installation reference name store failed wrote after)
    (other : String) :
    installation.secretKey other ∉ wrote ∧
        after.find? (installation.secretKey other) =
          store.find? (installation.secretKey other) ∨
      installation.secretKey other ∈ wrote ∧
        ∃ later, after.find? (installation.secretKey other) = some later ∧
          later.metadata.IsControlledBy reference.uid := by
  cases custody with
  | hindered | settled => exact .inl ⟨List.not_mem_nil, rfl⟩
  | adopted secret found notOwned =>
      by_cases same : installation.secretKey (secret.metadata.name.getD "") =
          installation.secretKey other
      · obtain rfl : secret.metadata.name.getD "" = other := (Key.mk.inj same).2.2
        exact .inr ⟨List.mem_singleton_self _, adoptedSecret reference secret,
          store.find?_put_self _ _, secret.metadata.isControlledBy_adoptedBy controls⟩
      · refine .inl ⟨fun member => same (List.mem_singleton.mp member).symm, ?_⟩
        exact Store.find?_put_of_ne store (adoptedSecret reference secret) same

end Custody

/-! ## One secret after the other -/

/-- Secrets of these names have met their fates, and nothing else is changed. -/
structure Fated (installation : Installation) (reference : OwnerReference)
    (names : List String) (failed : List Key) (before after : Store) : Prop where
  /-- What becomes of a secret depends on whether a call fails at it, and on itself. -/
  meets : ∀ name ∈ names, after.find? (installation.secretKey name) =
    (before.find? (installation.secretKey name)).map
      (fate reference (installation.secretKey name ∈ failed))
  /-- Everything else stays as it is. -/
  others : ∀ key ∉ names.map installation.secretKey, after.find? key = before.find? key

namespace AdoptingEach

variable {installation : Installation} {reference : OwnerReference} {names : List String}
  {transcript : List Exchange} {permitted : ClusterCall → Verdict → Prop}
  {store after : Store}

/-- Adopting secrets fails at these secrets at most. -/
theorem hindrances_subset (adopting : AdoptingEach installation reference names transcript) :
    hindrances transcript ⊆ names.map installation.secretKey := by
  induction adopting with
  | nil => exact List.nil_subset _
  | cons first others inductionHypothesis =>
      rw [hindrances_append, List.map_cons]
      exact List.append_subset_of_subset_of_subset
        (List.Subset.trans first.hindrances_subset (by simp))
        (List.subset_cons_of_subset _ inductionHypothesis)

/-- Where secrets lie under their own names, each meets its fate. -/
theorem fated
    (distinct : names.Nodup)
    (placed : store.PlacesSecrets)
    (adopting : AdoptingEach installation reference names transcript)
    (explains : Store.Explains permitted store transcript after) :
    Fated installation reference names (hindrances transcript) store after := by
  induction adopting generalizing store with
  | nil =>
      obtain rfl := explains
      exact ⟨by simp, fun _ _ => rfl⟩
  | @cons name rest front back first others inductionHypothesis =>
      obtain ⟨notAmongRest, distinctRest⟩ := List.nodup_cons.mp distinct
      obtain ⟨middle, explainsFirst, explainsOthers⟩ := Store.explains_append.mp explains
      have custody := first.custody explainsFirst
      have fated := inductionHypothesis distinctRest (custody.placesSecrets placed)
        explainsOthers
      -- Keys of different secrets are different, so that no part fails at a secret of the other.
      have apart : installation.secretKey name ∉ rest.map installation.secretKey := by
        simpa using notAmongRest
      have notInBack : installation.secretKey name ∉ hindrances back := fun member =>
        apart (others.hindrances_subset member)
      constructor
      · intro other member
        rcases List.mem_cons.mp member with rfl | member
        · rw [fated.others _ apart, custody.find?_eq placed]
          simp [notInBack]
        · have different : installation.secretKey name ≠ installation.secretKey other :=
            fun same => apart (same ▸ List.mem_map_of_mem member)
          have notInFront : installation.secretKey other ∉ hindrances front := fun inFront =>
            different (List.mem_singleton.mp (first.hindrances_subset inFront)).symm
          rw [fated.meets other member, custody.find?_of_ne placed different]
          simp [notInFront]
      · intro key notAmong
        obtain ⟨notFirst, notOther⟩ := not_or.mp (List.mem_cons.not.mp notAmong)
        rw [fated.others key notOther, custody.find?_of_ne placed (Ne.symm notFirst)]

/-- Every secret is left as it is, or comes under the control of who adopts. -/
theorem controlled
    (controls : reference.isController = true)
    (adopting : AdoptingEach installation reference names transcript)
    (explains : Store.Explains permitted store transcript after)
    (name : String) :
    installation.secretKey name ∉ written transcript ∧
        after.find? (installation.secretKey name) =
          store.find? (installation.secretKey name) ∨
      installation.secretKey name ∈ written transcript ∧
        ∃ later, after.find? (installation.secretKey name) = some later ∧
          later.metadata.IsControlledBy reference.uid := by
  induction adopting generalizing store with
  | nil =>
      obtain rfl := explains
      exact .inl ⟨List.not_mem_nil, rfl⟩
  | cons first others inductionHypothesis =>
      obtain ⟨middle, explainsFirst, explainsOthers⟩ := Store.explains_append.mp explains
      rw [written_append, List.mem_append]
      rcases inductionHypothesis explainsOthers with ⟨notLater, same⟩ | ⟨later, controlled⟩
      · rw [same]
        rcases (first.custody explainsFirst).controlled controls name with
          ⟨notFirst, stays⟩ | ⟨inFront, controlled⟩
        · exact .inl ⟨not_or.mpr ⟨notFirst, notLater⟩, stays⟩
        · exact .inr ⟨.inl inFront, controlled⟩
      · exact .inr ⟨.inr later, controlled⟩

/-- Where all secrets are owned already, nothing is written, and nothing is told. -/
theorem idle
    (owned : ∀ name ∈ names, ∀ secret, store.find? (installation.secretKey name) = some secret →
      secret.metadata.isOwnedBy reference.uid = true)
    (adopting : AdoptingEach installation reference names transcript)
    (explains : Store.Explains permitted store transcript after) :
    Idle store transcript after ∧
      ∀ exchange ∈ transcript, exchange.isPublication = false := by
  induction adopting with
  | nil =>
      obtain rfl := explains
      simp [Idle]
  | cons first others inductionHypothesis =>
      obtain ⟨middle, explainsFirst, explainsOthers⟩ := Store.explains_append.mp explains
      rw [List.forall_mem_cons] at owned
      obtain ⟨⟨rfl, asksNothing⟩, tellsNothing⟩ := first.idle owned.1 explainsFirst
      obtain ⟨⟨rfl, asksNothingElse⟩, tellsNothingElse⟩ :=
        inductionHypothesis owned.2 explainsOthers
      exact ⟨⟨rfl, List.forall_mem_append.mpr ⟨asksNothing, asksNothingElse⟩⟩,
        List.forall_mem_append.mpr ⟨tellsNothing, tellsNothingElse⟩⟩

end AdoptingEach

/-! ## All secrets of an installation -/

/-- The secrets of an installation are adopted, each for itself. -/
structure AdoptsEach (installation : Installation) (reference : OwnerReference)
    (before : Store) (transcript : List Exchange) (after : Store) : Prop where
  /-- All secrets are looked up, in their order. -/
  lookUps_eq : lookUps transcript = bootstrapSecrets.map installation.secretKey
  /--
  A secret that is there, that is not owned yet and at which nothing fails keeps its owners
  that do not control, in their order, and gets one more that does.  All else of it stays.
  -/
  adopts : ∀ name ∈ bootstrapSecrets, ∀ secret,
    before.find? (installation.secretKey name) = some secret →
    (∀ owner ∈ secret.metadata.owners, owner.uid ≠ reference.uid) →
    installation.secretKey name ∉ hindrances transcript →
    ∃ later, after.find? (installation.secretKey name) = some later ∧
      secret.SameButOwners later ∧
      later.metadata.ownerReferences =
        some (secret.metadata.owners.filter (fun owner => !owner.isController) ++ [reference])
  /-- Any other secret stays as it is. -/
  spares : ∀ name ∈ bootstrapSecrets,
    (∀ secret, before.find? (installation.secretKey name) = some secret →
      installation.secretKey name ∉ hindrances transcript →
      ∃ owner ∈ secret.metadata.owners, owner.uid = reference.uid) →
    after.find? (installation.secretKey name) = before.find? (installation.secretKey name)
  /-- And so does everything that is not a secret of the installation. -/
  others : ∀ key ∉ bootstrapSecrets.map installation.secretKey,
    after.find? key = before.find? key

namespace Fated

variable {installation : Installation} {reference : OwnerReference}
  {transcript : List Exchange} {before after : Store}

/-- Secrets that meet their fates are adopted, each for itself. -/
theorem adoptsEach
    (fated : Fated installation reference bootstrapSecrets (hindrances transcript) before after)
    (lookedUp : lookUps transcript = bootstrapSecrets.map installation.secretKey) :
    AdoptsEach installation reference before transcript after where
  lookUps_eq := lookedUp
  adopts name member secret found notOwned unhindered := by
    refine ⟨adoptedSecret reference secret, ?_, ⟨rfl, rfl⟩, rfl⟩
    have notOwned := Metadata.isOwnedBy_eq_false_iff.mpr notOwned
    rw [fated.meets name member, found]
    simp [fate, unhindered, notOwned]
  spares name member owned := by
    rw [fated.meets name member]
    cases found : before.find? (installation.secretKey name) with
    | none => rfl
    | some secret =>
        by_cases hindered : installation.secretKey name ∈ hindrances transcript
        · simp [fate, hindered]
        · obtain ⟨owner, isOwner, same⟩ := owned secret found hindered
          have isOwned : secret.metadata.isOwnedBy reference.uid = true :=
            List.any_eq_true.mpr ⟨owner, isOwner, beq_iff_eq.mpr same⟩
          simp [fate, isOwned]
  others := fated.others

end Fated

/-- The reference with which an installation owns its secrets, if it has a name and an identity. -/
theorem ownerReference?_eq_some
    {installation : Installation} {name uid : String}
    (named : installation.metadata.name = some name)
    (identified : installation.metadata.uid = some uid) :
    installation.ownerReference? = some
      { apiVersion := "com.accantosystems/v1alpha1"
        kind := "ALM"
        name, uid
        controller := some true
        blockOwnerDeletion := none } := by
  rw [Installation.ownerReference?, named, identified]
  rfl

/-- An installation that can be referred to takes its secrets in turn. -/
theorem adoptingEach_of_ownerReference?
    {installation : Installation} {reference : OwnerReference}
    {transcript : List Exchange} {outcome : Except Fault Unit}
    (refers : installation.ownerReference? = some reference)
    (yields : (propagateSecrets installation).Yields transcript outcome) :
    AdoptingEach installation reference bootstrapSecrets transcript := by
  rcases (yields_propagateSecrets yields).2 with ⟨isNone, -⟩ | ⟨other, isOther, adopting⟩
  · rw [refers] at isNone
    cases isNone
  · obtain rfl := Option.some.inj (isOther.symm.trans refers)
    exact adopting

/--
Adopting the secrets of an installation never fails as a whole: whatever becomes of its
calls, all secrets are looked up in their order, those that are not owned yet come under
the control of the installation and keep all else, and the others stay as they are.  What
becomes of one secret does not depend on the failures at the others.  After a run at which
nothing fails there is nothing left to write, nor to tell.
-/
theorem propagateSecrets_adoptsEach
    (installation : Installation)
    {name uid : String}
    (named : installation.metadata.name = some name)
    (identified : installation.metadata.uid = some uid)
    {store : Store}
    (placed : store.PlacesSecrets)
    (outside : Outside) :
    let propagation := propagateSecrets installation
    let reference : OwnerReference :=
      { apiVersion := "com.accantosystems/v1alpha1"
        kind := "ALM"
        name, uid
        controller := some true
        blockOwnerDeletion := none }
    let run := outside.perform propagation store
    run.outcome = .ok () ∧
      AdoptsEach installation reference store run.transcript run.state.store ∧
      (∀ other : Outside, ∀ secretName ∈ bootstrapSecrets,
        let key := installation.secretKey secretName
        let otherRun := other.perform propagation store
        (key ∈ hindrances run.transcript ↔ key ∈ hindrances otherRun.transcript) →
          run.state.store.find? key = otherRun.state.store.find? key) ∧
      (hindrances run.transcript = [] → ∀ later : Outside,
        let again := later.perform propagation run.state.store
        Idle run.state.store again.transcript again.state.store ∧
          ∀ exchange ∈ again.transcript, Exchange.isPublication exchange = false) := by
  intro propagation reference run
  have refers : installation.ownerReference? = some reference :=
    ownerReference?_eq_some named identified
  have adopting (world : Outside) (first : Store) :
      AdoptingEach installation reference bootstrapSecrets
        (world.perform propagation first).transcript :=
    adoptingEach_of_ownerReference? refers (Store.yields_perform world propagation first)
  have fated (world : Outside) :
      Fated installation reference bootstrapSecrets
        (hindrances (world.perform propagation store).transcript) store
        (world.perform propagation store).state.store :=
    (adopting world store).fated (by decide) placed
      (Store.explains_perform world.permits_any propagation store)
  refine ⟨(yields_propagateSecrets (Store.yields_perform outside propagation store)).1,
    (fated outside).adoptsEach (adopting outside store).lookUps_eq, ?_, ?_⟩
  · intro other secretName member key otherRun alike
    rw [(fated outside).meets secretName member, (fated other).meets secretName member]
    exact congrArg (fun hindered => (store.find? key).map (fate reference hindered))
      (decide_eq_decide.mpr alike)
  · intro unhindered later again
    refine (adopting later run.state.store).idle ?_
      (Store.explains_perform later.permits_any propagation run.state.store)
    intro secretName member secret stored
    rw [(fated outside).meets secretName member, Option.map_eq_some_iff] at stored
    obtain ⟨former, -, rfl⟩ := stored
    rw [show hindrances (outside.perform propagation store).transcript = [] from unhindered]
    exact isOwnedBy_fate reference former

/--
A world in which one secret cannot be looked up, and another one cannot be written.
-/
def selective : Outside :=
  { Outside.calm with
    verdict := fun
      | _, .lookup .secret _ "ishtar-tls" => .refuse (.other "cannot get Secret/ishtar-tls")
      | _, .replace .secret _ "brent-tls" _ => .refuse (.other "conflict on brent-tls")
      | _, _ => .carryOut }

/-- A secret with these owners. -/
def secretOwnedBy (name : String) (owners : List OwnerReference) : Object .secret :=
  ⟨{ Metadata.empty with name := some name, ownerReferences := some owners }, []⟩

/-- The reference of `demo` with which it owns, and controls or does not. -/
def demoReference (controller : Option Bool) : OwnerReference :=
  ⟨"com.accantosystems/v1alpha1", "ALM", "demo", "alm-uid", controller, none⟩

/-- The reference of a Job that controls. -/
def jobReference : OwnerReference := ⟨"batch/v1", "Job", "generator", "job-uid", some true, none⟩

/-- Four of the secrets: of another controller, adopted, and two at which calls fail. -/
def fourSecrets : Store :=
  ((((Store.empty.insert "lm" (secretOwnedBy "lm-certs" [jobReference])).insert
    "lm" (secretOwnedBy "nimrod-tls" [demoReference (some true)])).insert
    "lm" (secretOwnedBy "brent-tls" [])).insert "lm" (secretOwnedBy "ishtar-tls" []))

/-- One of the secrets changes its controller, and the failures at two others do not matter. -/
theorem propagateSecrets_adoptsEach_fourSecrets :
    let installation := Installation.demo true
    let run := selective.perform (propagateSecrets installation) fourSecrets
    AdoptsEach installation (demoReference (some true)) fourSecrets run.transcript
        run.state.store ∧
      hindrances run.transcript =
        [installation.secretKey "brent-tls", installation.secretKey "ishtar-tls"] ∧
      written run.transcript = [installation.secretKey "lm-certs"] ∧
      (run.state.store.find? (installation.secretKey "lm-certs")).map (·.metadata.owners) =
        some [demoReference (some true)] := by
  have placed : fourSecrets.PlacesSecrets :=
    ((((Store.wellNamed_empty.insert _ _).insert _ _).insert _ _).insert _ _).placesSecrets
  refine ⟨?_, by decide +kernel, by decide +kernel, by decide +kernel⟩
  exact (propagateSecrets_adoptsEach (Installation.demo true) rfl rfl placed selective).2.1

/-! ## The control of a secret -/

/--
Which secrets an installation controls once it has adopted them: those that the run has
written back, and those that it has controlled already.  If nothing fails, these are all
the secrets that are there except for those of which it was an owner without control.
Such a secret is passed over and stays as it is.
-/
theorem propagateSecrets_controls
    (installation : Installation)
    {name uid : String}
    (named : installation.metadata.name = some name)
    (identified : installation.metadata.uid = some uid)
    {store : Store}
    (single : ∀ (namespaceName secretName : String) (secret : Object .secret),
      store.find? ⟨.secret, namespaceName, secretName⟩ = some secret →
        (secret.metadata.owners.filter OwnerReference.isController).length ≤ 1)
    (outside : Outside) :
    let run := outside.perform (propagateSecrets installation) store
    ∀ secretName ∈ bootstrapSecrets, ∀ later : Object .secret,
      let key := installation.secretKey secretName
      run.state.store.find? key = some later →
      (later.metadata.IsControlledBy uid ↔
        key ∈ written run.transcript ∨
          ∃ former : Object .secret, store.find? key = some former ∧
            ∃ owner ∈ former.metadata.owners, owner.uid = uid ∧ owner.isController = true) ∧
      (store.PlacesSecrets → hindrances run.transcript = [] →
        ∃ former : Object .secret, store.find? key = some former ∧
          (later.metadata.IsControlledBy uid ↔ ¬ former.metadata.IsHeldBy uid) ∧
          (former.metadata.IsHeldBy uid → later = former)) := by
  intro run secretName member later key stored
  have refers := ownerReference?_eq_some named identified
  have adopting := adoptingEach_of_ownerReference? refers
    (Store.yields_perform outside (propagateSecrets installation) store)
  have explains := Store.explains_perform outside.permits_any (propagateSecrets installation) store
  constructor
  · rcases adopting.controlled rfl explains secretName with
      ⟨notWritten, same⟩ | ⟨isWritten, other, found, controlled⟩
    · rw [stored] at same
      rw [Metadata.isControlledBy_iff (single _ _ later same.symm), or_iff_right notWritten]
      constructor
      · exact fun controls => ⟨later, same.symm, controls⟩
      · rintro ⟨former, found, controls⟩
        obtain rfl := Option.some.inj (same.trans found)
        exact controls
    · obtain rfl := Option.some.inj (stored.symm.trans found)
      exact iff_of_true controlled (.inl isWritten)
  · intro placed unhindered
    have fated := adopting.fated (by decide) placed explains
    have stored := (fated.meets secretName member).symm.trans stored
    rw [unhindered, Option.map_eq_some_iff] at stored
    obtain ⟨former, found, rfl⟩ := stored
    refine ⟨former, found, ?_, ?_⟩
    · exact isControlledBy_fate rfl (single _ _ former found)
    · exact fun held => by simp [fate, held.1]

/-- A secret that `demo` owns without controlling it, and a Job controls another one. -/
def heldSecrets : Store :=
  (Store.empty.insert "lm" (secretOwnedBy "lm-certs" [demoReference none])).insert
    "lm" (secretOwnedBy "nimrod-tls" [jobReference])

/-- The secret that is owned already does not come under control, while the other one does. -/
theorem propagateSecrets_controls_heldSecrets :
    let installation := Installation.demo true
    let run := Outside.calm.perform (propagateSecrets installation) heldSecrets
    (∀ secretName ∈ bootstrapSecrets, ∀ later : Object .secret,
      run.state.store.find? (installation.secretKey secretName) = some later →
        ∃ former : Object .secret,
          heldSecrets.find? (installation.secretKey secretName) = some former ∧
          (later.metadata.IsControlledBy "alm-uid" ↔ ¬ former.metadata.IsHeldBy "alm-uid")) ∧
      hindrances run.transcript = [] ∧
      written run.transcript = [installation.secretKey "nimrod-tls"] ∧
      (run.state.store.find? (installation.secretKey "lm-certs")).map (·.metadata.owners) =
        some [demoReference none] := by
  have wellNamed : heldSecrets.WellNamed := (Store.wellNamed_empty.insert _ _).insert _ _
  have single : ∀ (namespaceName secretName : String) (secret : Object .secret),
      heldSecrets.find? ⟨.secret, namespaceName, secretName⟩ = some secret →
        (secret.metadata.owners.filter OwnerReference.isController).length ≤ 1 := by
    intro namespaceName secretName secret found
    rcases Store.secret_of_find?_insert found with ⟨-, rfl⟩ | found
    · decide
    · rcases Store.secret_of_find?_insert found with ⟨-, rfl⟩ | found
      · decide
      · cases found
  have unhindered : hindrances (Outside.calm.perform (propagateSecrets (Installation.demo true))
      heldSecrets).transcript = [] := by decide +kernel
  refine ⟨?_, unhindered, by decide +kernel, by decide +kernel⟩
  intro secretName member later stored
  obtain ⟨former, found, controlled, -⟩ := (propagateSecrets_controls (Installation.demo true)
    rfl rfl single Outside.calm secretName member later stored).2 wellNamed.placesSecrets unhindered
  exact ⟨former, found, controlled⟩

end Pass
end LifecycleOperator
