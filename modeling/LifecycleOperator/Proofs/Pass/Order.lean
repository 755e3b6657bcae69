import LifecycleOperator.Proofs.Pass.Gating
import LifecycleOperator.Proofs.Pass.Marker
import LifecycleOperator.Proofs.Pass.Sparing
import Mathlib.Data.List.Pairwise

/-!
# The order of phases

Passes over an installation are taken one after the other, while others work on the
store as well and any call may fail.  As long as nothing is removed, what one pass has
seen is never missed by a later one.  Every phase rests on what the pass has missed and
seen: the start of the configurator on having missed its Job, a rollout on having missed
the marker, and both on having seen them in the end.  So the phases of the passes that
succeed never go back, however many passes have failed in between.
-/

namespace LifecycleOperator

namespace Phase

/-- The place of a phase in the order in which an installation goes through them. -/
def rank : Phase → Nat
  | .gone => 0
  | .jobCreated => 1
  | .jobRunning => 2
  | .rollout _ => 3
  | .steady _ => 4

/-- Which phase may come later than another one. -/
inductive Precedes : Phase → Phase → Prop
  | waits : Precedes .jobCreated .jobRunning
  | waitsStill : Precedes .jobRunning .jobRunning
  | rollsOut : Precedes .jobCreated (.rollout .complete)
  | rollsOutThen : Precedes .jobRunning (.rollout .complete)
  | settles (earlier : Phase) (isHealthy : Bool) : Precedes earlier (.steady isHealthy)

/-- Later phases have no lower place in the order. -/
theorem Precedes.rank_le
    {earlier later : Phase}
    (precedes : earlier.Precedes later) :
    earlier.rank ≤ later.rank := by
  cases precedes with
  | settles _ isHealthy => cases earlier <;> simp [rank]
  | waits | waitsStill | rollsOut | rollsOutThen => simp [rank]

/-- The configurator is not started again. -/
theorem not_precedes_jobCreated (earlier : Phase) : ¬ earlier.Precedes .jobCreated := by
  intro precedes
  cases precedes

/-- No rollout comes after one that is complete. -/
theorem not_precedes_rollout : ¬ Precedes (.rollout .complete) (.rollout .complete) := by
  intro precedes
  cases precedes

end Phase

/-- What never comes after itself comes once at most. -/
theorem count_le_one_of_pairwise
    {α : Type} [DecidableEq α] {relation : α → α → Prop} {entries : List α} {entry : α}
    (ordered : entries.Pairwise relation)
    (irreflexive : ¬ relation entry entry) :
    entries.count entry ≤ 1 := by
  by_contra many
  have twice : 2 ≤ entries.count entry := by omega
  have pair : [entry, entry].Pairwise relation :=
    ordered.sublist (List.replicate_sublist_iff.mpr twice)
  rw [List.pairwise_pair] at pair
  exact irreflexive pair

namespace Pass

/-! ## Others at work -/

/-- Nothing is removed, and the installation keeps its place and name. -/
structure Sustains (installation : Installation) (name : String) (before after : Store) :
    Prop where
  has : ∀ key, before.Has key → after.Has key
  keeps : Keeps installation name before → Keeps installation name after

theorem Sustains.refl
    (installation : Installation) (name : String) (store : Store) :
    Sustains installation name store store :=
  ⟨fun _ present => present, fun keeps => keeps⟩

end Pass

/--
Others remove nothing and leave the installation its place and name.  Any call may fail,
and a creation may come too late, but no name is said to be taken that is free.
-/
structure SharedOutside.Gentle (outside : SharedOutside) (installation : Installation)
    (name : String) : Prop where
  candid : outside.Permits Verdict.Candid
  sustains : ∀ number store,
    Pass.Sustains installation name store (outside.meanwhile number store)

namespace Pass

section Passes

variable {installation : Installation} {name : String} {store after : Store}
  {transcript : List Exchange}

/-- Wherever a pass finds an installation of the name, it has the place and name. -/
theorem identified_of_found
    (amid : Store.ExplainsAmid (Sustains installation name) store transcript after)
    (spares : ∀ exchange ∈ transcript, Sparing exchange.call)
    (keeps : Keeps installation name store)
    {other : Installation}
    (member : found installation.namespaceName name other ∈ transcript) :
    other.namespaceName = installation.namespaceName ∧
      other.anyName = installation.anyName := by
  obtain ⟨front, back, rfl⟩ := List.append_of_mem member
  obtain ⟨before, middle, amidFront, answers, -⟩ := amid.split
  have keepsBefore : Keeps installation name before := by
    refine amidFront.stable (fun _ _ sustains => sustains.keeps) ?_ keeps
    intro exchange inFront _ _ answered
    exact keeps_of_answers (spares exchange (List.mem_append_left _ inFront)) answered
  obtain ⟨current, stored, identified⟩ := keepsBefore
  rw [answers.lookup.2 _ rfl, Option.some.injEq] at stored
  rw [stored]
  exact identified

/-! ## What a phase tells -/

/-- What a pass has missed and seen that ends in a phase. -/
inductive Shows (installation : Installation) (transcript : List Exchange) : Phase → Prop
  /-- Neither the marker nor the Job was there, and the Job is there now. -/
  | jobCreated
      (unmarked : Misses transcript installation.markerKey)
      (jobless : Misses transcript (jobKey installation))
      (started : Sees transcript (jobKey installation)) :
      Shows installation transcript .jobCreated
  /-- The marker was not there, but the Job was. -/
  | jobRunning
      (unmarked : Misses transcript installation.markerKey)
      (started : Sees transcript (jobKey installation)) :
      Shows installation transcript .jobRunning
  /-- The marker was not there, and is there now. -/
  | rolledOut
      (unmarked : Misses transcript installation.markerKey)
      (marked : Sees transcript installation.markerKey) :
      Shows installation transcript (.rollout .complete)
  /-- The marker was there. -/
  | steady (isHealthy : Bool)
      (marked : Sees transcript installation.markerKey) :
      Shows installation transcript (.steady isHealthy)

/-- The opening of a pass misses the marker. -/
theorem misses_of_opening
    {namespaceName : String} {other : Installation} {manifest : Manifest}
    {rest : List Exchange} :
    Misses (opening namespaceName name other manifest ++ rest)
      ⟨.deployment, namespaceName, markerDeployment⟩ :=
  List.mem_append_left _ (List.mem_cons_of_mem _ List.mem_cons_self)

/-- Following the health succeeds with what the probe has answered. -/
theorem Following.steady
    {namespaceName : String} {phase : Phase}
    (follows : Following installation namespaceName name transcript (.ok phase)) :
    ∃ isHealthy, phase = .steady isHealthy ∧ ⟨.probe, .ok isHealthy⟩ ∈ transcript := by
  cases follows with
  | healthy answer _ ends =>
      cases answer with
      | error fault => cases ends
      | ok result =>
          cases ends
          exact ⟨true, rfl, List.mem_cons_self⟩
  | unhealthy told answer _ ends =>
      cases answer with
      | error fault => cases ends
      | ok result =>
          cases ends
          exact ⟨false, rfl, List.mem_cons_self⟩

/-- A rollout that is part of a pass shows that it is complete. -/
theorem shows_of_yields_rollout
    {other : Installation} {manifest : Manifest} {rest : List Exchange}
    {ending : Except Fault Progress} {phase : Phase}
    (unmarked : Misses transcript installation.markerKey)
    (located : other.namespaceName = installation.namespaceName)
    (rolls : (rollout other (other.specification.profile manifest)).Yields rest ending)
    (included : rest ⊆ transcript)
    (ends : .ok phase = ending.map .rollout) :
    Shows installation transcript phase := by
  have complete : ending = .ok .complete := by
    rcases yields_rollout rolls with ⟨fault, rfl, -⟩ | ⟨front, told, rfl, -, -⟩
    · cases ends
    · rfl
  subst complete
  cases ends
  have marked := sees_of_yields_rollout rolls other.markerKey other.markerKey_mem_rolloutKeys
  rw [show other.markerKey = installation.markerKey by
    unfold Installation.markerKey
    rw [located]] at marked
  exact .rolledOut unmarked (marked.mono included)

/-- Every pass that succeeds shows what its phase tells. -/
theorem Course.shows
    {phase : Phase}
    (course : Course installation.namespaceName name transcript (.ok phase))
    (there : ¬ Misses transcript ⟨.installation, installation.namespaceName, name⟩)
    (identified : ∀ other, found installation.namespaceName name other ∈ transcript →
      other.namespaceName = installation.namespaceName ∧
        other.anyName = installation.anyName) :
    Shows installation transcript phase := by
  have sameJob : ∀ other, found installation.namespaceName name other ∈ transcript →
      jobKey other = jobKey installation := by
    intro other member
    obtain ⟨located, named⟩ := identified other member
    unfold jobKey Installation.jobName
    rw [located, named]
  generalize ended : (Except.ok phase : Except Fault Phase) = outcome at course
  cases course with
  | unreadable | markerUnreadable | unreleased | jobUnreadable => cases ended
  | gone => exact absurd List.mem_cons_self there
  | followed other marker rest _ follows =>
      subst ended
      obtain ⟨isHealthy, rfl, -⟩ := follows.steady
      exact .steady isHealthy
        ⟨_, List.mem_cons_of_mem _ List.mem_cons_self, .found _ _ _ marker⟩
  | rolledOut other manifest runsNot rest ending rolls _ ends =>
      subst ended
      have located := (identified other List.mem_cons_self).1
      exact shows_of_yields_rollout misses_of_opening located rolls
        (List.subset_append_right _ rest) ends
  | started other manifest runs rest ending starts _ ends =>
      subst ended
      have same := sameJob other List.mem_cons_self
      cases ending with
      | error fault => cases ends
      | ok result =>
          cases ends
          have started := sees_of_yields_ensureEach starts (jobKey other) (by
            rw [map_key_bootstrapRequirements]
            simp [Installation.bootstrapKeys, jobKey])
          rw [same] at started
          refine .jobCreated misses_of_opening ?_ (started.mono ?_)
          · rw [← same]
            exact List.mem_append_right _ List.mem_cons_self
          · intro exchange member
            exact List.mem_append_right _ (List.mem_cons_of_mem _ member)
  | waiting other manifest runs job isRunning =>
      cases ended
      refine .jobRunning misses_of_opening ?_
      rw [← sameJob other List.mem_cons_self]
      exact ⟨_, List.mem_append_right _ List.mem_cons_self, .found _ _ _ job⟩
  | resumed other manifest runs job pods hasSucceeded adoption rest ending adopts rolls _ ends =>
      subst ended
      have located := (identified other List.mem_cons_self).1
      refine shows_of_yields_rollout misses_of_opening located rolls ?_ ends
      intro exchange member
      exact List.mem_append_right _
        (List.mem_cons_of_mem _ (List.mem_append_right adoption member))

/-- What earlier phases have seen keeps later ones from going back. -/
theorem Shows.precedes
    {later : List Exchange} {phase phaseLater : Phase}
    (shows : Shows installation transcript phase)
    (showsLater : Shows installation later phaseLater)
    (remembers : ∀ key, Sees transcript key → ¬ Misses later key) :
    phase.Precedes phaseLater := by
  cases showsLater with
  | steady isHealthy => exact .settles phase isHealthy
  | jobCreated unmarked jobless =>
      cases shows with
      | jobCreated _ _ started => exact absurd jobless (remembers _ started)
      | jobRunning _ started => exact absurd jobless (remembers _ started)
      | rolledOut _ marked => exact absurd unmarked (remembers _ marked)
      | steady _ marked => exact absurd unmarked (remembers _ marked)
  | jobRunning unmarked =>
      cases shows with
      | jobCreated => exact .waits
      | jobRunning => exact .waitsStill
      | rolledOut _ marked => exact absurd unmarked (remembers _ marked)
      | steady _ marked => exact absurd unmarked (remembers _ marked)
  | rolledOut unmarked =>
      cases shows with
      | jobCreated => exact .rollsOut
      | jobRunning => exact .rollsOutThen
      | rolledOut _ marked => exact absurd unmarked (remembers _ marked)
      | steady _ marked => exact absurd unmarked (remembers _ marked)

/-- Where the marker has been seen before, a pass that succeeds ends steady. -/
theorem Shows.steady_of_marked
    {phase : Phase}
    (shows : Shows installation transcript phase)
    (marked : ¬ Misses transcript installation.markerKey) :
    ∃ isHealthy, phase = .steady isHealthy := by
  cases shows with
  | steady isHealthy => exact ⟨isHealthy, rfl⟩
  | jobCreated unmarked | jobRunning unmarked | rolledOut unmarked =>
      exact absurd unmarked marked

end Passes

/-! ## One pass after the other -/

/-- Passes one after the other, each in a world of its own. -/
def passes (namespaceName name : String) : Store → List SharedOutside → List PassRun
  | _, [] => []
  | store, outside :: worlds =>
      let run := outside.perform (reconcile namespaceName name) store
      run :: passes namespaceName name run.state.store worlds

/-- The phases in which passes have ended that have succeeded. -/
def phases (runs : List PassRun) : List Phase :=
  runs.filterMap fun run => run.outcome.toOption

theorem toOption_eq_some_iff
    {α : Type} {outcome : Except Fault α} {result : α} :
    outcome.toOption = some result ↔ outcome = .ok result := by
  cases outcome <;> simp [Except.toOption]

/-- A pass has found the marker. -/
def FindsMarker (namespaceName : String) (run : PassRun) : Prop :=
  ∃ marker, markerLookup namespaceName (.ok (some marker)) ∈ run.transcript

section Runs

variable {installation : Installation} {name : String} {store : Store}
  {outside : SharedOutside} {worlds : List SharedOutside}

/-- What a pass does is explained, while others are at work. -/
theorem amid_of_gentle
    (gentle : outside.Gentle installation name)
    (store : Store) :
    let run := outside.perform (reconcile installation.namespaceName name) store
    Store.ExplainsAmid (Sustains installation name) store run.transcript run.state.store :=
  Store.explainsAmid_run (Sustains.refl installation name) gentle.sustains gentle.candid
    (reconcile installation.namespaceName name) ⟨store, 0⟩

/-- A pass asks for nothing that creates or replaces an installation. -/
theorem sparing_of_mem_transcript :
    ∀ exchange ∈ (outside.perform
      (reconcile installation.namespaceName name) store).transcript,
        Sparing exchange.call :=
  (Program.run_yields outside.respond (reconcile installation.namespaceName name)
    ⟨store, 0⟩).leads.asks (asks_reconcile_sparing installation.namespaceName name)

/-- A pass leaves an installation its place and name. -/
theorem keeps_of_gentle
    (gentle : outside.Gentle installation name)
    (keeps : Keeps installation name store) :
    Keeps installation name
      (outside.perform (reconcile installation.namespaceName name) store).state.store := by
  refine (amid_of_gentle gentle store).stable (fun _ _ sustains => sustains.keeps) ?_ keeps
  intro exchange member _ _ answered
  exact keeps_of_answers (sparing_of_mem_transcript exchange member) answered

/-- A pass that succeeds shows what its phase tells. -/
theorem shows_of_gentle
    (gentle : outside.Gentle installation name)
    (keeps : Keeps installation name store)
    {phase : Phase}
    (succeeds : (outside.perform
      (reconcile installation.namespaceName name) store).outcome = .ok phase) :
    Shows installation (outside.perform
      (reconcile installation.namespaceName name) store).transcript phase := by
  have course := yields_reconcile (Program.run_yields outside.respond
    (reconcile installation.namespaceName name) ⟨store, 0⟩)
  change Course _ _ _ (outside.perform _ store).outcome at course
  rw [succeeds] at course
  have amid := amid_of_gentle gentle store
  apply course.shows
  · intro misses
    obtain ⟨current, stored, -⟩ := keeps
    exact amid.not_has_of_misses (fun _ _ _ sustains => sustains.has _) misses
      (Store.has_of_find?_eq_some stored)
  · intro other member
    exact identified_of_found amid sparing_of_mem_transcript keeps member

/-- Every one of the passes that succeeds shows what its phase tells. -/
theorem shows_of_mem_passes
    (gentle : ∀ outside ∈ worlds, outside.Gentle installation name)
    (keeps : Keeps installation name store) :
    ∀ run ∈ passes installation.namespaceName name store worlds,
      ∀ phase, run.outcome = .ok phase → Shows installation run.transcript phase := by
  induction worlds generalizing store with
  | nil => simp [passes]
  | cons outside worlds inductionHypothesis =>
      rw [List.forall_mem_cons] at gentle
      unfold passes
      rw [List.forall_mem_cons]
      refine ⟨fun phase succeeds => shows_of_gentle gentle.1 keeps succeeds, ?_⟩
      exact inductionHypothesis gentle.2 (keeps_of_gentle gentle.1 keeps)

/-- What is there at the beginning is missed by none of the passes. -/
theorem not_misses_of_has
    (gentle : ∀ outside ∈ worlds, outside.Gentle installation name)
    {key : Key}
    (present : store.Has key) :
    ∀ run ∈ passes installation.namespaceName name store worlds,
      ¬ Misses run.transcript key := by
  have keep : ∀ key before after, Sustains installation name before after →
      before.Has key → after.Has key := fun key _ _ sustains => sustains.has key
  induction worlds generalizing store with
  | nil => simp [passes]
  | cons outside worlds inductionHypothesis =>
      rw [List.forall_mem_cons] at gentle
      have amid := amid_of_gentle gentle.1 store
      unfold passes
      rw [List.forall_mem_cons]
      refine ⟨fun misses => amid.not_has_of_misses keep misses present, ?_⟩
      exact inductionHypothesis gentle.2 (amid.has keep present)

/-- What one of the passes has seen is missed by none of the later ones. -/
theorem pairwise_passes
    (gentle : ∀ outside ∈ worlds, outside.Gentle installation name)
    (store : Store) :
    (passes installation.namespaceName name store worlds).Pairwise
      fun earlier later => ∀ key, Sees earlier.transcript key →
        ¬ Misses later.transcript key := by
  induction worlds generalizing store with
  | nil => exact .nil
  | cons outside worlds inductionHypothesis =>
      rw [List.forall_mem_cons] at gentle
      have amid := amid_of_gentle gentle.1 store
      unfold passes
      refine .cons ?_ (inductionHypothesis gentle.2 _)
      intro later member key sees
      -- What was seen is in the store from which the next pass starts, and stays there.
      have present := amid.has_of_sees (fun key _ _ sustains => sustains.has key) sees
      exact not_misses_of_has gentle.2 present later member

end Runs

/-- Passes go through the phases of an installation in their order. -/
structure Forward (namespaceName : String) (runs : List PassRun) : Prop where
  /-- No phase is followed by one that comes before it. -/
  ordered : (phases runs).Pairwise fun earlier later => earlier.rank ≤ later.rank
  startedOnce : (phases runs).count .jobCreated ≤ 1
  finishedOnce : (phases runs).count (.rollout .complete) ≤ 1
  neverRequeued : .rollout .requeue ∉ phases runs
  neverGone : .gone ∉ phases runs
  /-- Once the marker was found, passes that succeed end steady. -/
  settled : runs.Pairwise fun earlier later => FindsMarker namespaceName earlier →
    ∀ phase, later.outcome = .ok phase → ∃ isHealthy, phase = .steady isHealthy

/--
The order of phases.  Passes are taken over an installation that stays where it is,
while any calls fail and others do whatever removes nothing: the phases of the passes
that succeed never go back.  The configurator is started at most once and a rollout is
complete at most once, and once the marker has been found there are no phases but steady
ones.
-/
theorem forward_passes
    (namespaceName name : String)
    (installation : Installation)
    (located : installation.metadata.namespaceName = some namespaceName)
    (first : Store)
    (stored : first.find? ⟨.installation, namespaceName, name⟩ = some installation)
    (worlds : List SharedOutside)
    (gentle : ∀ outside ∈ worlds, outside.Gentle installation name) :
    Forward namespaceName (passes namespaceName name first worlds) := by
  obtain rfl : installation.namespaceName = namespaceName := by
    simp [Object.namespaceName, located]
  have shows := shows_of_mem_passes gentle ⟨installation, stored, rfl, rfl⟩
  have remembers := pairwise_passes gentle first
  generalize passes installation.namespaceName name first worlds = runs at shows remembers
  have shown : ∀ phase ∈ phases runs, ∃ run ∈ runs, Shows installation run.transcript phase := by
    intro phase member
    obtain ⟨run, isRun, succeeds⟩ := List.mem_filterMap.mp member
    exact ⟨run, isRun, shows run isRun phase (toOption_eq_some_iff.mp succeeds)⟩
  have precedes : (phases runs).Pairwise Phase.Precedes := by
    unfold phases
    rw [List.pairwise_filterMap]
    refine remembers.imp_of_mem ?_
    intro earlier later isEarlier isLater remembered phase succeeds phaseLater succeedsLater
    have showsEarlier := shows earlier isEarlier phase (toOption_eq_some_iff.mp succeeds)
    have showsLater := shows later isLater phaseLater (toOption_eq_some_iff.mp succeedsLater)
    exact showsEarlier.precedes showsLater remembered
  constructor
  case ordered => exact precedes.imp fun earlier => earlier.rank_le
  case startedOnce => exact count_le_one_of_pairwise precedes (Phase.not_precedes_jobCreated _)
  case finishedOnce => exact count_le_one_of_pairwise precedes Phase.not_precedes_rollout
  case neverRequeued =>
    intro member
    obtain ⟨run, -, impossible⟩ := shown _ member
    cases impossible
  case neverGone =>
    intro member
    obtain ⟨run, -, impossible⟩ := shown _ member
    cases impossible
  case settled =>
    refine remembers.imp_of_mem ?_
    rintro earlier later - isLater remembered ⟨marker, finds⟩ phase succeeds
    have marked : Sees earlier.transcript installation.markerKey :=
      ⟨_, finds, .found _ _ _ marker⟩
    exact (shows later isLater phase succeeds).steady_of_marked (remembered _ marked)

/-- A world in which nothing fails, and in which others do nothing. -/
def quiet : SharedOutside := { Outside.calm with meanwhile := fun _ store => store }

/-- A world in which the Job of `demo` succeeds before a pass makes its first call. -/
def finishing : SharedOutside :=
  { Outside.calm with
    meanwhile := fun number store =>
      if number = 0 then store.insert "lm" demoJob else store }

theorem gentle_quiet : quiet.Gentle (Installation.demo true) "demo" where
  candid := Outside.candid_calm
  sustains := fun _ store => Sustains.refl _ _ store

theorem gentle_finishing : finishing.Gentle (Installation.demo true) "demo" where
  candid := Outside.candid_calm
  sustains := by
    intro number store
    unfold finishing
    simp only
    split
    · refine ⟨fun key present => present.insert "lm" demoJob, ?_⟩
      rintro ⟨current, stored, identified⟩
      refine ⟨current, ?_, identified⟩
      rw [← stored]
      apply Store.find?_put_of_ne
      intro same
      cases congrArg Key.kind same
    · exact Sustains.refl _ _ store

/-- Passes over `demo` go through all of its phases, one of which the others bring about. -/
theorem forward_passes_demo :
    let first := Store.empty.insert "lm" (Installation.demo true)
    let runs := passes "lm" "demo" first [quiet, quiet, finishing, quiet]
    Forward "lm" runs ∧
      phases runs = [.jobCreated, .jobRunning, .rollout .complete, .steady true] := by
  refine ⟨?_, by decide +kernel⟩
  refine forward_passes "lm" "demo" (Installation.demo true) rfl _ rfl _ ?_
  intro outside member
  simp only [List.mem_cons, List.not_mem_nil, or_false] at member
  rcases member with rfl | rfl | rfl | rfl
  · exact gentle_quiet
  · exact gentle_quiet
  · exact gentle_finishing
  · exact gentle_quiet

end Pass
end LifecycleOperator
