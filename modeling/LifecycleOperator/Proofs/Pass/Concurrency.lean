import LifecycleOperator.Proofs.Pass.Announcement
import LifecycleOperator.Proofs.Pass.Completion
import LifecycleOperator.Proofs.Pass.Sighting
import LifecycleOperator.Proofs.Program.Interleaving

/-!
# Rolling out at the same time

A delivery may be repeated, and a second replica may be at work: then an installation
is rolled out by several callers at the same time, between whose calls any others may
come.  Each caller only ever asks for what one of them asks for when it is alone, so
that all of them together add what is required, and nothing else; a caller that has
ended has seen all of it.  As the first creation of an object is the only one that
succeeds, it makes no difference how many callers there are, nor whose turn it is.
-/

namespace LifecycleOperator

namespace Pass

/-! ## Calls that serve requirements -/

/-- What may be asked to make sure of objects. -/
def Serves (owner : Installation) (requirements : List Requirement) : Call → Prop
  | .cluster (.lookup _ _ _) => True
  | .cluster (.publish _ _) => True
  | .cluster (.create kind namespaceName object) =>
      PlacedAmong owner requirements
        ⟨kind, namespaceName, object.metadata.name.getD ""⟩ object
  | _ => False

section Serves

variable {owner : Installation} {requirements : List Requirement}
  {transcript : List Exchange} {store after : Store}

theorem mayEnsure_serves
    {requirement : Requirement}
    (member : requirement ∈ requirements) :
    MayEnsure (Serves owner requirements) owner requirement where
  looks := trivial
  creates := fun object built => ⟨requirement, member, .built object built⟩
  tells := fun _ => trivial

/-- Calls that serve requirements change nothing but by creations. -/
theorem onlyCreates_of_serves
    (serves : ∀ exchange ∈ transcript, Serves owner requirements exchange.call) :
    OnlyCreates transcript := by
  intro exchange member mutates
  have served := serves exchange member
  match exchange with
  | ⟨.fetchRelease _, _⟩ | ⟨.probe, _⟩ => exact False.elim served
  | ⟨.cluster (.replace _ _ _ _), _⟩ | ⟨.cluster (.patchStatus _ _ _), _⟩ =>
      exact False.elim served
  | ⟨.cluster (.lookup _ _ _), _⟩ | ⟨.cluster (.publish _ _), _⟩ =>
      simp [Exchange.mutates, Operation.ofCall?, Operation.isMutation] at mutates
  | ⟨.cluster (.create _ _ _), _⟩ => rfl

/-- A call that serves requirements adds at most what is required. -/
theorem grows_of_answers_serving
    {exchange : Exchange}
    (serves : Serves owner requirements exchange.call)
    (answers : store.Answers Verdict.CarriesOut exchange after) :
    Store.Grows (PlacedAmong owner requirements) store after := by
  match exchange with
  | ⟨.fetchRelease _, _⟩ | ⟨.probe, _⟩ => exact False.elim serves
  | ⟨.cluster (.replace _ _ _ _), _⟩ | ⟨.cluster (.patchStatus _ _ _), _⟩ =>
      exact False.elim serves
  | ⟨.cluster (.lookup _ _ _), _⟩ =>
      rw [answers.lookup.1]
      exact .refl store
  | ⟨.cluster (.publish _ _), _⟩ =>
      rw [answers.publish]
      exact .refl store
  | ⟨.cluster (.create _ _ _), .error _⟩ =>
      rw [answers.create_taken.1]
      exact .refl store
  | ⟨.cluster (.create _ _ _), .ok _⟩ =>
      obtain ⟨absent, -, rfl⟩ := answers.create_ok
      exact .of_put absent serves

/-- Calls that serve requirements add at most what is required, whoever makes them. -/
theorem grows_of_explains_serving
    (serves : ∀ exchange ∈ transcript, Serves owner requirements exchange.call)
    (explains : Store.Explains Verdict.CarriesOut store transcript after) :
    Store.Grows (PlacedAmong owner requirements) store after := by
  induction transcript generalizing store with
  | nil =>
      obtain rfl := explains
      exact .refl after
  | cons exchange rest inductionHypothesis =>
      obtain ⟨middle, answers, explainsRest⟩ := explains
      rw [List.forall_mem_cons] at serves
      have grows := grows_of_answers_serving serves.1 answers
      exact grows.trans (inductionHypothesis serves.2 explainsRest)

end Serves

/-! ## Callers in their turns -/

section Race

variable {ι : Type} [DecidableEq ι]

/-- Callers that work on a store at the same time. -/
abbrev Callers (ι α : Type) := Program.Ensemble Pass.interface Outside.Moment ι α

/-- All calls that have been made, in their order. -/
def asked {α : Type} (callers : Callers ι α) : List Exchange :=
  callers.log.map Prod.snd

/-- All calls of callers that take turns explain the store that they leave. -/
theorem explains_play
    {α : Type}
    {permitted : ClusterCall → Verdict → Prop} {outside : Outside}
    (permits : outside.Permits permitted)
    (programs : ι → Pass α)
    (moment : Outside.Moment)
    (schedule : List ι) :
    let last := (Program.Ensemble.start programs moment).play outside.respond schedule
    Store.Explains permitted moment.store (asked last) last.state.store := by
  have nothingYet : Store.Explains permitted moment.store
      (asked (Program.Ensemble.start programs moment)) moment.store := rfl
  refine Program.Ensemble.play_induction (motive := fun _ (callers : Callers ι α) =>
    Store.Explains permitted moment.store (asked callers) callers.state.store)
    nothingYet ?_ schedule
  intro turns middle caller explains
  unfold Program.Ensemble.turn
  cases next : middle.remaining caller with
  | done outcome => exact explains
  | ask call continuation =>
      unfold asked
      rw [List.map_append]
      refine Store.explains_append.mpr ⟨middle.state.store, explains, ?_⟩
      exact ⟨_, Store.answers_respond permits call middle.state, rfl⟩

/--
Callers roll the same installation out, over one store and in the turns of a schedule.
Nothing fails, except that a name may be taken.
-/
def race (installation : Installation) (manifest : Manifest) (first : Store)
    (schedule : List ι) : Callers ι Progress :=
  (Program.Ensemble.start
    (fun _ => rollout installation (installation.specification.profile manifest))
    ⟨first, 0⟩).play Outside.calm.respond schedule

/-- A caller has ended. -/
def Ends {α : Type} (callers : Callers ι α) (caller : ι) (outcome : Except Fault α) : Prop :=
  callers.remaining caller = .done outcome

section Callers

variable {installation : Installation} {manifest : Manifest} {first : Store}
  {schedule : List ι} {last : Callers ι Progress}
  (played : race installation manifest first schedule = last)

include played

/-- All calls of the callers explain the store that they leave. -/
theorem explains_race
    {permitted : ClusterCall → Verdict → Prop}
    (permits : Outside.calm.Permits permitted) :
    Store.Explains permitted first (asked last) last.state.store := by
  subst played
  exact explains_play permits _ ⟨first, 0⟩ schedule

/-- What a caller asks is part of its rollout. -/
theorem leads_race (caller : ι) :
    (rollout installation (installation.specification.profile manifest)).Leads
      (Program.callsOf caller last.log) (last.remaining caller) := by
  subst played
  exact Program.Ensemble.leads_play Outside.calm.respond
    (fun _ => rollout installation (installation.specification.profile manifest))
    ⟨first, 0⟩ schedule caller

/-- All calls of the callers serve what is to be rolled out. -/
theorem serves_race :
    ∀ exchange ∈ asked last,
      Serves installation (rolloutRequirements installation manifest) exchange.call := by
  intro exchange member
  obtain ⟨⟨caller, exchange⟩, inLog, rfl⟩ := List.mem_map.mp member
  have asks : (rollout installation
      (installation.specification.profile manifest)).Asks
        (Serves installation (rolloutRequirements installation manifest)) :=
    asks_rollout (fun requirement required => mayEnsure_serves required) fun _ => trivial
  exact (leads_race played caller).asks asks exchange (Program.mem_callsOf inLog)

/-- The callers add at most what is to be rolled out. -/
theorem grows_race :
    Store.Grows (PlacedAmong installation (rolloutRequirements installation manifest)) first
      last.state.store :=
  grows_of_explains_serving (serves_race played)
    (explains_race played Outside.faultless_calm.carriesOut)

/-- Every creation adds an object, whichever of the callers it is by. -/
theorem tally_race (key : Key) :
    (asked last).countP (·.creates key) + tally first key = tally last.state.store key :=
  tally_of_explains (onlyCreates_of_serves (serves_race played))
    (explains_race played Outside.faultless_calm.carriesOut) key

/-- What was there at the beginning is never created. -/
theorem countP_creates_of_has
    {key : Key}
    (present : first.Has key) :
    (asked last).countP (·.creates key) = 0 := by
  have stillPresent : last.state.store.Has key := (grows_race played).has present
  have total := tally_race played key
  simp only [tally, present, stillPresent, if_true] at total
  omega

/-- All calls of the callers go smoothly. -/
theorem smooth_race : ∀ exchange ∈ asked last, exchange.Smooth := by
  subst played
  intro exchange member
  obtain ⟨entry, inLog, rfl⟩ := List.mem_map.mp member
  exact Program.Ensemble.forall_mem_log Outside.calm.respond _ _ schedule
    Outside.faultless_calm.smooth entry inLog

variable {caller : ι} {outcome : Except Fault Progress} (ended : Ends last caller outcome)

include ended

/-- The calls of a caller that has ended make up a rollout, and go smoothly. -/
theorem yields_of_ended :
    (rollout installation (installation.specification.profile manifest)).Yields
        (Program.callsOf caller last.log) outcome ∧
      ∀ exchange ∈ Program.callsOf caller last.log, Exchange.Smooth exchange := by
  have leads := leads_race played caller
  rw [show last.remaining caller = .done outcome from ended] at leads
  refine ⟨leads.yields, ?_⟩
  intro exchange member
  exact smooth_race played exchange (Program.mem_map_of_mem_callsOf member)

/-- A caller that has ended has completed its rollout, and the store is complete. -/
theorem completes_of_ended :
    outcome = .ok .complete ∧
      Completes installation (rolloutRequirements installation manifest) first
        last.state.store := by
  obtain ⟨yields, smooth⟩ := yields_of_ended played ended
  obtain rfl := complete_of_yields_rollout yields (failures_eq_nil_of_smooth smooth)
  refine ⟨rfl, grows_race played, ?_⟩
  rw [map_key_rolloutRequirements]
  intro key member
  -- The caller itself has seen the object, but that it is still there is up to all calls.
  have sees : Sees (asked last) key :=
    (sees_of_yields_rollout yields key member).mono fun exchange called =>
      Program.mem_map_of_mem_callsOf called
  refine (explains_race played Outside.candid_calm).amid.has_of_sees ?_ sees
  rintro other before after rfl present
  exact present

/-- Once a caller has ended, what was missing has been created once. -/
theorem countP_creates_of_ended
    {key : Key}
    (member : key ∈ installation.rolloutKeys)
    (absent : ¬ first.Has key) :
    (asked last).countP (·.creates key) = 1 := by
  rw [← map_key_rolloutRequirements installation manifest] at member
  have present := (completes_of_ended played ended).2.present key member
  have total := tally_race played key
  simp only [tally, absent, present, if_true, if_false] at total
  exact total

omit ended

/-- Once all callers have ended, it has been told of each creation. -/
theorem countP_announces_of_ended
    (allEnded : ∀ caller, ∃ outcome, Ends last caller outcome)
    {key : Key}
    (member : key ∈ installation.rolloutKeys) :
    (asked last).countP (·.announces key) = (asked last).countP (·.creates key) := by
  have place : key.namespaceName = installation.namespaceName := by
    obtain ⟨slot, -, rfl⟩ := List.mem_map.mp member
    rfl
  apply Program.countP_map_eq_of_callsOf
  intro caller
  obtain ⟨outcome, ended⟩ := allEnded caller
  obtain ⟨yields, smooth⟩ := yields_of_ended played ended
  exact countP_announces_of_yields_rollout yields smooth place

end Callers

/-- What becomes of callers that roll an installation out at the same time. -/
structure Concerted (installation : Installation) (manifest : Manifest) (first : Store)
    (schedule : List ι) (last : Callers ι Progress) : Prop where
  /-- A caller that has had enough turns has ended. -/
  ends : ∀ caller, 3 * installation.rolloutKeys.length + 1 ≤ schedule.count caller →
    ∃ outcome, Ends last caller outcome
  /-- A caller that has ended has been successful. -/
  succeeds : ∀ caller outcome, Ends last caller outcome → outcome = .ok .complete
  /-- What was there at the beginning is there as it was. -/
  kept : ∀ key object, first.find? key = some object →
    last.state.store.find? key = some object
  /-- Once a caller has ended, the store is what a caller leaves that is alone. -/
  same : ∀ caller outcome, Ends last caller outcome →
    last.state.store.Same (Outside.calm.perform
      (rollout installation (installation.specification.profile manifest)) first).state.store
  /-- What was missing at the beginning has then been created, by one caller and once. -/
  createdOnce : ∀ caller outcome, Ends last caller outcome →
    ∀ key ∈ installation.rolloutKeys, ¬ first.Has key →
      (asked last).countP (·.creates key) = 1
  /-- What was there at the beginning is never created. -/
  notCreated : ∀ key, first.Has key → (asked last).countP (·.creates key) = 0
  /-- Once all callers have ended, each creation has been told of, and nothing else. -/
  announced : (∀ caller, ∃ outcome, Ends last caller outcome) →
    ∀ key ∈ installation.rolloutKeys,
      (asked last).countP (·.announces key) = (asked last).countP (·.creates key)
  /-- So what was missing has been told of once. -/
  announcedOnce : Nonempty ι → (∀ caller, ∃ outcome, Ends last caller outcome) →
    ∀ key ∈ installation.rolloutKeys, ¬ first.Has key →
      (asked last).countP (·.announces key) = 1

/--
It makes no difference how many callers roll an installation out at the same time, nor
in which order their calls come: each of them ends successfully and leaves what one of
them would have left alone, nothing is overwritten, and what was missing is created, and
told of, exactly once by all of them together.
-/
theorem concerted_race
    (installation : Installation)
    (manifest : Manifest)
    (first : Store)
    (schedule : List ι) :
    Concerted installation manifest first schedule
      (race installation manifest first schedule) := by
  generalize played : race installation manifest first schedule = last
  constructor
  case ends =>
    intro caller enough
    subst played
    exact Program.Ensemble.ended_of_le_count Outside.calm.respond
      (fun _ => rollout installation (installation.specification.profile manifest))
      ⟨first, 0⟩ schedule (endsWithin_rollout installation manifest) enough
  case succeeds =>
    intro caller outcome ended
    exact (completes_of_ended played ended).1
  case kept =>
    intro key object stored
    exact (grows_race played).find? stored
  case same =>
    intro caller outcome ended
    have distinct := installation.nodup_rolloutKeys
    rw [← map_key_rolloutRequirements installation manifest] at distinct
    exact (completes_of_ended played ended).2.same distinct
      (completes_rollout Outside.faultless_calm installation manifest first).2
  case createdOnce =>
    intro caller outcome ended key member absent
    exact countP_creates_of_ended played ended member absent
  case notCreated =>
    intro key present
    exact countP_creates_of_has played present
  case announced =>
    intro allEnded key member
    exact countP_announces_of_ended played allEnded member
  case announcedOnce =>
    intro ⟨caller⟩ allEnded key member absent
    obtain ⟨outcome, ended⟩ := allEnded caller
    rw [countP_announces_of_ended played allEnded member]
    exact countP_creates_of_ended played ended member absent

end Race
end Pass
end LifecycleOperator
