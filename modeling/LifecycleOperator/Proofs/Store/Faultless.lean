import LifecycleOperator.Proofs.Pass.Advance

/-!
# Worlds without failures

In a world in which no call fails, every call on the cluster is carried out, every
release is there and every probe is answered.  What may still happen is that a name
turns out to be taken when an object is created.
-/

namespace LifecycleOperator

/-- A call is carried out. -/
def Verdict.CarriesOut (_ : ClusterCall) (verdict : Verdict) : Prop :=
  verdict = .carryOut

/-- What is carried out is not refused, and so not refused as taken. -/
theorem Verdict.CarriesOut.honest
    {call : ClusterCall} {verdict : Verdict}
    (carriesOut : CarriesOut call verdict) :
    Honest call verdict := by
  intro fault refused
  rw [carriesOut] at refused
  cases refused

namespace Pass.Exchange

/--
A call does not fail, except for a creation whose name is taken, and for the status of
an installation, which can be set only where there is one.
-/
def Smooth : Exchange → Prop
  | ⟨.cluster (.create _ _ _), .error fault⟩ => fault.IsTaken
  | ⟨.cluster (.patchStatus _ _ _), _⟩ => True
  | ⟨_, .error _⟩ => False
  | ⟨_, .ok _⟩ => True

/-- A smooth exchange fails at no object. -/
theorem Smooth.failure?_eq_none
    {exchange : Exchange}
    (smooth : exchange.Smooth) :
    exchange.failure? = none := by
  match exchange with
  | ⟨.fetchRelease _, _⟩ | ⟨.probe, _⟩ => rfl
  | ⟨.cluster (.lookup _ _ _), .ok _⟩ => rfl
  | ⟨.cluster (.create _ _ _), .ok _⟩ => rfl
  | ⟨.cluster (.create _ _ _), .error fault⟩ =>
      obtain ⟨_, _, _, rfl⟩ := smooth
      rfl
  | ⟨.cluster (.replace _ _ _ _), _⟩ => rfl
  | ⟨.cluster (.patchStatus _ _ _), _⟩ => rfl
  | ⟨.cluster (.publish _ _), _⟩ => rfl

end Pass.Exchange

/-- A world outside in which no call fails. -/
structure Outside.Faultless (outside : Outside) : Prop where
  carriesOut : outside.Permits Verdict.CarriesOut
  /-- Every release can be fetched. -/
  releases : ∀ number url, ∃ manifest, outside.release number url = .ok manifest
  probes : ∀ number, ∃ isHealthy, outside.probe number = .ok isHealthy

namespace Outside

theorem faultless_calm : calm.Faultless :=
  ⟨fun _ _ => rfl, fun _ _ => ⟨_, rfl⟩, fun _ => ⟨_, rfl⟩⟩

namespace Faultless

variable {outside : Outside} (faultless : outside.Faultless)

include faultless

theorem honest : outside.Permits Verdict.Honest :=
  fun number call => (faultless.carriesOut number call).honest

/-- Every call is answered smoothly. -/
theorem smooth (call : Pass.Call) (moment : Moment) :
    Pass.Exchange.Smooth ⟨call, (outside.respond call moment).1⟩ := by
  match call with
  | .fetchRelease url =>
      obtain ⟨manifest, released⟩ := faultless.releases moment.calls url
      simp [respond, released, Pass.Exchange.Smooth]
  | .probe =>
      obtain ⟨isHealthy, answered⟩ := faultless.probes moment.calls
      simp [respond, answered, Pass.Exchange.Smooth]
  | .cluster call =>
      have carriesOut := faultless.carriesOut moment.calls call
      rw [Verdict.CarriesOut] at carriesOut
      simp only [respond, carriesOut, Store.respond]
      cases call with
      | lookup | publish | replace | patchStatus => trivial
      | create kind namespaceName object =>
          simp only [Store.carryOut, Store.create]
          split
          · exact ⟨_, _, _, rfl⟩
          · trivial

/-- Every exchange of a run is smooth. -/
theorem smooth_of_mem_transcript
    {α : Type} (part : Pass α) (moment : Moment) :
    ∀ exchange ∈ (part.run outside.respond moment).transcript,
      Pass.Exchange.Smooth exchange := by
  induction part generalizing moment with
  | done outcome => simp
  | ask call next inductionHypothesis =>
      intro exchange member
      rcases List.mem_cons.mp member with rfl | inRest
      · exact faultless.smooth call moment
      · exact inductionHypothesis _ _ exchange inRest

/-- Every exchange that is made in the world is smooth. -/
theorem smooth_perform
    {α : Type} (part : Pass α) (store : Store) :
    ∀ exchange ∈ (outside.perform part store).transcript, Pass.Exchange.Smooth exchange :=
  faultless.smooth_of_mem_transcript part ⟨store, 0⟩

end Faultless
end Outside

/-- A creation that is carried out and fails has found the name taken, and changes nothing. -/
theorem Store.Answers.create_taken
    {store after : Store} {kind : Kind} {namespaceName : String}
    {object : Object kind} {fault : Fault}
    (answers : store.Answers Verdict.CarriesOut
      ⟨.cluster (.create kind namespaceName object), .error fault⟩ after) :
    after = store ∧ store.Has ⟨kind, namespaceName, object.metadata.name.getD ""⟩ := by
  obtain ⟨verdict, rfl, responds⟩ := answers
  simp only [respond, carryOut, create] at responds
  split at responds
  · rename_i former found
    cases responds
    exact ⟨rfl, by simp [Has, found]⟩
  · cases responds

namespace Pass

/-- Nothing fails in a smooth transcript. -/
theorem failures_eq_nil_of_smooth
    {transcript : List Exchange}
    (smooth : ∀ exchange ∈ transcript, exchange.Smooth) :
    failures transcript = [] := by
  apply List.filterMap_eq_nil_iff.mpr
  intro exchange member
  exact (smooth exchange member).failure?_eq_none

end Pass
end LifecycleOperator
