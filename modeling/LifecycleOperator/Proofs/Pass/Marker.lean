import LifecycleOperator.Proofs.Pass.Advance

/-!
# What the marker tells

Passes over an installation are taken one after the other, from a store that holds
nothing of what is to be rolled out.  In each of them any call may fail.  As long as
there is no marker the rollout is tried again and again, and what comes behind the
marker is not there.  The pass that creates the marker either gets to its end, or is
stopped behind the marker; from then on the marker keeps every later pass from
rolling anything out.  So a steady installation is complete just when that one pass
was not stopped.
-/

namespace LifecycleOperator
namespace Pass

/-- A pass that was run. -/
abbrev PassRun := Program.Run Pass.interface Outside.Moment Phase

/--
The store that passes lead to from a first one, in worlds that do not pretend that
names are taken, with the passes in their order.
-/
inductive Reached (namespaceName name : String) (first : Store) :
    List PassRun → Store → Prop
  | start : Reached namespaceName name first [] first
  | pass
      (earlier : List PassRun) (store : Store)
      (reached : Reached namespaceName name first earlier store)
      (outside : Outside) (honest : outside.Permits Verdict.Honest) :
      Reached namespaceName name first
        (earlier ++ [outside.perform (reconcile namespaceName name) store])
        (outside.perform (reconcile namespaceName name) store).state.store

/-- A pass has rolled everything out. -/
def Finishes (run : PassRun) : Prop :=
  run.outcome = .ok (.rollout .complete)

/-- A call of a pass has failed for an object that is rolled out behind the marker. -/
def FailsBehindMarker (installation : Installation) (run : PassRun) : Prop :=
  ∃ key ∈ failures run.transcript, key ∈ installation.keysBehindMarker

instance (installation : Installation) (run : PassRun) :
    Decidable (FailsBehindMarker installation run) :=
  inferInstanceAs
    (Decidable (∃ key ∈ failures run.transcript, key ∈ installation.keysBehindMarker))

/-- How far passes have led. -/
inductive Stage (installation : Installation) (earlier : List PassRun) (store : Store) :
    Prop
  /-- There is no marker, nor anything that comes behind it. -/
  | unmarked
      (absent : ∀ key ∈ installation.markerKey :: installation.keysBehindMarker,
        ¬ store.Has key)
      (unfinished : ∀ run ∈ earlier, ¬ Finishes run)
      (unhindered : ∀ run ∈ earlier, ¬ FailsBehindMarker installation run)
  /-- The marker is there, but something behind it will be missing for good. -/
  | stuck
      (present : ∀ key ∈ installation.keysUpToMarker, store.Has key)
      (missing : ∃ key ∈ installation.keysBehindMarker, ¬ store.Has key)
      (unfinished : ∀ run ∈ earlier, ¬ Finishes run)
      (hindered : ∃ run ∈ earlier, FailsBehindMarker installation run)
  /-- Everything is there. -/
  | complete
      (present : ∀ key ∈ installation.rolloutKeys, store.Has key)
      (finished : ∃ run ∈ earlier, Finishes run)
      (unhindered : ∀ run ∈ earlier, ¬ FailsBehindMarker installation run)

/--
A list without repetitions that is divided in two ways: the second division falls
behind the first one, or nothing behind the first one comes before the second one.
-/
theorem divided_twice
    {before behind done rest : List Key} {marker key : Key}
    (distinct : (before ++ marker :: behind).Nodup)
    (divided : before ++ marker :: behind = done ++ key :: rest) :
    (key ∈ behind ∧ key ∉ done ∧ ∀ other ∈ before ++ [marker], other ∈ done) ∨
      (key ∉ behind ∧ ∀ other ∈ marker :: behind, other ∉ done) := by
  have distinctAgain := distinct
  rw [divided] at distinctAgain
  have notDone : key ∉ done := fun member =>
    (List.nodup_append.mp distinctAgain).2.2 key member key List.mem_cons_self rfl
  have apart : ∀ other ∈ marker :: behind, other ∉ before := fun other isBehind isBefore =>
    (List.nodup_append.mp distinct).2.2 other isBefore other isBehind rfl
  rcases List.append_eq_append_iff.mp divided with
    ⟨between, rfl, isBehind⟩ | ⟨between, rfl, isBehind⟩
  · cases between with
    | nil =>
        obtain ⟨rfl, rfl⟩ := List.cons.inj isBehind
        rw [List.append_nil]
        have single := (List.nodup_cons.mp (List.nodup_append.mp distinct).2.1).1
        exact .inr ⟨single, apart⟩
    | cons head between =>
        obtain ⟨rfl, rfl⟩ := List.cons.inj isBehind
        refine .inl ⟨by simp, notDone, ?_⟩
        intro other member
        rcases List.mem_append.mp member with inBefore | isMarker
        · exact List.mem_append_left _ inBefore
        · rw [List.mem_singleton.mp isMarker]
          exact List.mem_append_right _ List.mem_cons_self
  · refine .inr ⟨?_, fun other member inDone =>
      apart other member (List.mem_append_left between inDone)⟩
    cases between with
    | nil =>
        obtain ⟨rfl, rfl⟩ := List.cons.inj isBehind
        exact (List.nodup_cons.mp (List.nodup_append.mp distinct).2.1).1
    | cons head between =>
        obtain ⟨rfl, rfl⟩ := List.cons.inj isBehind
        intro member
        exact apart key (List.mem_cons_of_mem marker member) (by simp)

/-- What holds of all passes so far and of the next one holds of all passes then. -/
theorem forall_mem_concat
    {property : PassRun → Prop} {earlier : List PassRun} {run : PassRun}
    (before : ∀ other ∈ earlier, property other)
    (last : property run) :
    ∀ other ∈ earlier ++ [run], property other := by
  intro other member
  rcases List.mem_append.mp member with inEarlier | isLast
  · exact before other inEarlier
  · rw [List.mem_singleton.mp isLast]
    exact last

namespace Stage

variable {installation : Installation} {earlier : List PassRun} {run : PassRun}
  {store after : Store}

/-- A pass that moves nothing leaves passes at their stage. -/
theorem unmoved
    (stage : Stage installation earlier store)
    (untouched : ∀ key ∈ installation.rolloutKeys, after.find? key = store.find? key)
    (elsewhere : ¬ FailsBehindMarker installation run)
    (unfinished : ¬ Finishes run) :
    Stage installation (earlier ++ [run]) after := by
  have same : ∀ key ∈ installation.rolloutKeys, (after.Has key ↔ store.Has key) :=
    fun key member => Store.has_iff_of_find?_eq (untouched key member)
  have markedOrBehind : installation.markerKey :: installation.keysBehindMarker ⊆
      installation.rolloutKeys := by
    rw [installation.rolloutKeys_eq_append]
    exact List.subset_append_right _ _
  cases stage with
  | unmarked absent unfinishedSoFar unhindered =>
      refine .unmarked ?_ (forall_mem_concat unfinishedSoFar unfinished)
        (forall_mem_concat unhindered elsewhere)
      intro key member present
      exact absent key member ((same key (markedOrBehind member)).mp present)
  | stuck present missing unfinishedSoFar hindered =>
      obtain ⟨key, behind, isMissing⟩ := missing
      obtain ⟨other, inEarlier, fails⟩ := hindered
      refine .stuck ?_ ⟨key, behind, ?_⟩ (forall_mem_concat unfinishedSoFar unfinished)
        ⟨other, List.mem_append_left _ inEarlier, fails⟩
      · intro early isEarly
        exact (same early (installation.keysUpToMarker_subset isEarly)).mpr
          (present early isEarly)
      · intro isThere
        exact isMissing ((same key (installation.keysBehindMarker_subset behind)).mp isThere)
  | complete present finished unhindered =>
      obtain ⟨other, inEarlier, finishes⟩ := finished
      refine .complete ?_ ⟨other, List.mem_append_left _ inEarlier, finishes⟩
        (forall_mem_concat unhindered elsewhere)
      intro key member
      exact (same key member).mpr (present key member)

/-- Without a marker there is nothing behind the marker either. -/
theorem of_unmarked
    (stage : Stage installation earlier store)
    (isUnmarked : ¬ store.Has installation.markerKey) :
    (∀ key ∈ installation.markerKey :: installation.keysBehindMarker, ¬ store.Has key) ∧
      (∀ run ∈ earlier, ¬ Finishes run) ∧
      (∀ run ∈ earlier, ¬ FailsBehindMarker installation run) := by
  cases stage with
  | unmarked absent unfinished unhindered => exact ⟨absent, unfinished, unhindered⟩
  | stuck present => exact absurd (present _ installation.markerKey_mem_keysUpToMarker) isUnmarked
  | complete present =>
      exact absurd (present _ installation.markerKey_mem_rolloutKeys) isUnmarked

/-- A pass leads from one stage to another one. -/
theorem advance
    (stage : Stage installation earlier store)
    (advance : Advance installation store after (failures run.transcript) run.outcome) :
    Stage installation (earlier ++ [run]) after := by
  cases advance with
  | unmoved untouched elsewhere unfinished =>
      refine stage.unmoved untouched ?_ unfinished
      rintro ⟨key, fails, behind⟩
      exact elsewhere key fails behind
  | completed isUnmarked present elsewhere finished =>
      obtain ⟨-, -, unhindered⟩ := stage.of_unmarked isUnmarked
      refine .complete present ⟨run, by simp, finished⟩ (forall_mem_concat unhindered ?_)
      rintro ⟨key, fails, behind⟩
      exact elsewhere key fails behind
  | stopped isUnmarked done key rest split present untouched fails unfinished =>
      obtain ⟨absent, unfinishedSoFar, unhindered⟩ := stage.of_unmarked isUnmarked
      have distinct := installation.nodup_rolloutKeys
      have divided := split
      rw [installation.rolloutKeys_eq_append] at distinct divided
      have stillAbsent : ∀ other ∈ installation.markerKey :: installation.keysBehindMarker,
          other ∉ done → ¬ after.Has other := by
        intro other member notDone
        have isRollout : other ∈ installation.rolloutKeys := by
          rw [installation.rolloutKeys_eq_append]
          exact List.mem_append_right _ member
        rw [Store.has_iff_of_find?_eq (untouched other isRollout notDone)]
        exact absent other member
      have allUnfinished := forall_mem_concat unfinishedSoFar unfinished
      rcases divided_twice distinct divided with
        ⟨behind, notDone, doneBefore⟩ | ⟨notBehind, noneDone⟩
      · refine .stuck (fun other early => present other (doneBefore other early))
          ⟨key, behind, stillAbsent key (List.mem_cons_of_mem _ behind) notDone⟩
          allUnfinished ⟨run, by simp, key, (fails key behind).mpr rfl, behind⟩
      · refine .unmarked (fun other member => stillAbsent other member (noneDone other member))
          allUnfinished (forall_mem_concat unhindered ?_)
        rintro ⟨other, failed, behind⟩
        rw [(fails other behind).mp failed] at behind
        exact notBehind behind

/-- Where the marker is, everything is there just when nothing was in the way of the rollout. -/
theorem complete_iff
    (stage : Stage installation earlier store)
    (marked : store.Has installation.markerKey) :
    (∀ key ∈ installation.keysUpToMarker, store.Has key) ∧
      ((∀ key ∈ installation.rolloutKeys, store.Has key) ↔
        ∀ run ∈ earlier, ¬ FailsBehindMarker installation run) ∧
      ((∀ key ∈ installation.rolloutKeys, store.Has key) ↔
        ∃ run ∈ earlier, Finishes run) := by
  cases stage with
  | unmarked absent => exact absurd marked (absent _ List.mem_cons_self)
  | stuck present missing unfinished hindered =>
      have incomplete : ¬ ∀ key ∈ installation.rolloutKeys, store.Has key := by
        intro all
        obtain ⟨key, behind, isMissing⟩ := missing
        exact isMissing (all key (installation.keysBehindMarker_subset behind))
      refine ⟨present, iff_of_false incomplete ?_, iff_of_false incomplete ?_⟩
      · intro unhindered
        obtain ⟨run, member, fails⟩ := hindered
        exact unhindered run member fails
      · rintro ⟨run, member, finishes⟩
        exact unfinished run member finishes
  | complete present finished unhindered =>
      refine ⟨?_, iff_of_true present unhindered, iff_of_true present finished⟩
      intro key isEarly
      exact present key (installation.keysUpToMarker_subset isEarly)

end Stage

/-! ## Whole runs -/

section Runs

variable {installation : Installation} {name : String} {first store : Store}
  {earlier : List PassRun}

/-- Whatever passes lead to, the installation is known there, and they are at some stage. -/
theorem Reached.stage
    (reached : Reached installation.namespaceName name first earlier store)
    (known : Knows first name installation.metadata)
    (empty : ∀ key ∈ installation.rolloutKeys, ¬ first.Has key) :
    Knows store name installation.metadata ∧ Stage installation earlier store := by
  induction reached with
  | start =>
      refine ⟨known, .unmarked ?_ (by simp) (by simp)⟩
      intro key member
      apply empty key
      rw [installation.rolloutKeys_eq_append]
      exact List.mem_append_right _ member
  | pass earlier store reached outside honest inductionHypothesis =>
      obtain ⟨knows, stage⟩ := inductionHypothesis
      obtain ⟨advance, stillKnows⟩ := advance_of_knows outside honest knows
      exact ⟨stillKnows, stage.advance advance⟩

/-- A pass that ends steady has found the marker, and has moved nothing. -/
theorem steady_marked
    {transcript : List Exchange} {isHealthy : Bool} {namespaceName : String}
    {permitted : ClusterCall → Verdict → Prop} {after : Store}
    (course : Course namespaceName name transcript (.ok (.steady isHealthy)))
    (explains : Store.Explains permitted store transcript after) :
    store.Has ⟨.deployment, namespaceName, markerDeployment⟩ := by
  cases course with
  | followed other marker rest _ follows =>
      obtain ⟨-, afterLookup⟩ := Store.Explains.lookup explains
      obtain ⟨marked, -⟩ := afterLookup.lookup
      simp [Store.Has, marked _ rfl]
  | rolledOut other manifest runsNot rest ending rolls _ ends =>
      cases ending <;> cases ends
  | started other manifest runs rest ending starts _ ends =>
      cases ending <;> cases ends
  | resumed other manifest runs job pods hasSucceeded adoption rest ending adopts rolls _ ends =>
      cases ending <;> cases ends

end Runs

/--
What a steady pass tells.  Passes that start where nothing has been rolled out, and
in which any calls may fail, lead to a pass that ends steady: then all is there that
is rolled out up to the marker.  Everything is there just when no earlier pass failed
behind the marker, which is just when one of them has finished its rollout.
-/
theorem complete_iff_of_steady
    (namespaceName name : String)
    (installation : Installation)
    (located : installation.metadata.namespaceName = some namespaceName)
    (first : Store)
    (stored : first.find? ⟨.installation, namespaceName, name⟩ = some installation)
    (empty : ∀ key ∈ installation.rolloutKeys, ¬ first.Has key)
    (earlier : List PassRun)
    (store : Store)
    (reached : Reached namespaceName name first earlier store)
    (outside : Outside)
    (honest : outside.Permits Verdict.Honest)
    (isHealthy : Bool)
    (steady : (outside.perform (reconcile namespaceName name) store).outcome =
      .ok (.steady isHealthy)) :
    let after := (outside.perform (reconcile namespaceName name) store).state.store
    (∀ key ∈ installation.keysUpToMarker, after.Has key) ∧
      ((∀ key ∈ installation.rolloutKeys, after.Has key) ↔
        ∀ run ∈ earlier, ¬ FailsBehindMarker installation run) ∧
      ((∀ key ∈ installation.rolloutKeys, after.Has key) ↔
        ∃ run ∈ earlier, Finishes run) := by
  obtain rfl : installation.namespaceName = namespaceName := by
    simp [Object.namespaceName, located]
  have known : Knows first name installation.metadata := ⟨installation.body, stored⟩
  obtain ⟨knows, stage⟩ := reached.stage known empty
  have course := yields_reconcile
    (Program.run_yields outside.respond (reconcile installation.namespaceName name) ⟨store, 0⟩)
  have explains := Store.explains_run honest
    (reconcile installation.namespaceName name) ⟨store, 0⟩
  change Course _ _ _ (outside.perform _ store).outcome at course
  rw [steady] at course
  have marked : store.Has installation.markerKey := steady_marked course explains
  obtain ⟨advance, -⟩ := advance_of_knows outside honest knows
  cases advance with
  | completed unmarked => exact absurd marked unmarked
  | stopped unmarked => exact absurd marked unmarked
  | unmoved untouched elsewhere unfinished =>
      intro after
      have same : ∀ key ∈ installation.rolloutKeys, (after.Has key ↔ store.Has key) :=
        fun key member => Store.has_iff_of_find?_eq (untouched key member)
      have allSame : (∀ key ∈ installation.rolloutKeys, after.Has key) ↔
          ∀ key ∈ installation.rolloutKeys, store.Has key :=
        forall₂_congr same
      obtain ⟨early, unhindered, finished⟩ := stage.complete_iff marked
      rw [allSame]
      refine ⟨?_, unhindered, finished⟩
      intro key isEarly
      exact (same key (installation.keysUpToMarker_subset isEarly)).mpr (early key isEarly)

/-- The world in which the Service next to the marker cannot be created. -/
def refusingService : Outside :=
  { Outside.calm with
    verdict := fun
      | _, .create .service _ object =>
          if object.metadata.name = some markerDeployment then
            .refuse (.other "admission denied Service/daytona")
          else .carryOut
      | _, _ => .carryOut }

/-- No refusal in this world pretends that a name is taken. -/
theorem honest_refusingService : refusingService.Permits Verdict.Honest := by
  rintro number call fault refused ⟨kind, namespaceName, name, rfl⟩
  unfold refusingService at refused
  simp only at refused
  split at refused
  · split at refused <;> cases refused
  · cases refused

/-- Nothing is refused where every call succeeds. -/
theorem honest_calm : Outside.calm.Permits Verdict.Honest := by
  intro number call fault refused
  cases refused

/--
The marker does not mark a completed rollout: `demo` ends steady although the
Service next to the marker was refused, and has never been created.
-/
theorem incomplete_of_refusingService :
    let first := Store.empty.insert "lm" (Installation.demo false)
    let refused := refusingService.perform (reconcile "lm" "demo") first
    let last := Outside.calm.perform (reconcile "lm" "demo") refused.state.store
    last.outcome = .ok (.steady true) ∧
      ¬ ∀ key ∈ (Installation.demo false).rolloutKeys, last.state.store.Has key := by
  have fails : FailsBehindMarker (Installation.demo false)
      (refusingService.perform (reconcile "lm" "demo")
        (Store.empty.insert "lm" (Installation.demo false))) := by
    decide +kernel
  have reached : Reached "lm" "demo" (Store.empty.insert "lm" (Installation.demo false)) _ _ :=
    .pass [] _ .start refusingService honest_refusingService
  refine ⟨by decide +kernel, ?_⟩
  intro complete
  have unhindered := (complete_iff_of_steady "lm" "demo" (Installation.demo false) rfl
    (Store.empty.insert "lm" (Installation.demo false)) rfl (by decide +kernel) _ _ reached
    Outside.calm honest_calm true (by decide +kernel)).2.1.mp complete
  exact unhindered _ (List.mem_singleton_self _) fails

end Pass
end LifecycleOperator
