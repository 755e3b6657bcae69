import LifecycleOperator.Proofs.Pass.Ensure

/-!
# Others at work on a store

A store is shared: between two calls of a pass others may change it.  What a pass once
saw in a store is worth something nevertheless if the others remove nothing.  An object
that was found, that was created or whose name turned out to be taken is there from
then on, and an object that was looked up in vain was not there before.  A creation that
comes too late needs no word of its own: another writer has been at work before it.
-/

namespace LifecycleOperator

/-- A creation is refused as too late only where its name is taken; all else may fail. -/
def Verdict.Candid : ClusterCall → Verdict → Prop
  | .create _ _ _, .refuse fault => ¬ fault.IsTaken
  | _, _ => True

/-- Where every call succeeds, no creation is refused. -/
theorem Outside.candid_calm : Outside.calm.Permits Verdict.Candid := by
  intro number call
  cases call <;> trivial

/-- A world outside of a pass in which others work on the store as well. -/
structure SharedOutside extends Outside where
  /-- What others make of the store right before a call, by the number of the call. -/
  meanwhile : Nat → Store → Store

namespace SharedOutside

/-- Answer the next call, once others have done their work. -/
def respond (outside : SharedOutside) : Program.Responder Pass.interface Outside.Moment :=
  fun call moment =>
    outside.toOutside.respond call
      { moment with store := outside.meanwhile moment.calls moment.store }

/-- Run a part of a pass over a store that is shared. -/
def perform {α : Type} (outside : SharedOutside) (part : Pass α) (store : Store) :
    Program.Run Pass.interface Outside.Moment α :=
  part.run outside.respond ⟨store, 0⟩

end SharedOutside

namespace Pass
namespace Exchange

/-- An exchange shows that there is an object of a key. -/
inductive Sights : Exchange → Key → Prop
  /-- The object is found. -/
  | found (kind : Kind) (namespaceName name : String) (object : Object kind) :
      Sights ⟨.cluster (.lookup kind namespaceName name), .ok (some object)⟩
        ⟨kind, namespaceName, name⟩
  /-- The object is created. -/
  | created (kind : Kind) (namespaceName : String) (object answer : Object kind) :
      Sights ⟨.cluster (.create kind namespaceName object), .ok answer⟩
        ⟨kind, namespaceName, object.metadata.name.getD ""⟩
  /-- The name of the object turns out to be taken. -/
  | taken (kind : Kind) (namespaceName : String) (object : Object kind)
      (fault : Fault) (isTaken : fault.IsTaken) :
      Sights ⟨.cluster (.create kind namespaceName object), .error fault⟩
        ⟨kind, namespaceName, object.metadata.name.getD ""⟩

end Exchange

/-- A transcript shows that an object is there. -/
def Sees (transcript : List Exchange) (key : Key) : Prop :=
  ∃ exchange ∈ transcript, exchange.Sights key

/-- An object was looked up in the course of a transcript, and was not there. -/
def Misses (transcript : List Exchange) (key : Key) : Prop :=
  ⟨.cluster (.lookup key.kind key.namespaceName key.name), .ok none⟩ ∈ transcript

/-- What is seen in a part of a transcript is seen in the whole. -/
theorem Sees.mono
    {part whole : List Exchange} {key : Key}
    (sees : Sees part key)
    (included : part ⊆ whole) :
    Sees whole key := by
  obtain ⟨exchange, member, sights⟩ := sees
  exact ⟨exchange, included member, sights⟩

end Pass

namespace Store

variable {store after : Store} {key : Key} {others : Store → Store → Prop}
  {permitted : ClusterCall → Verdict → Prop} {transcript : List Pass.Exchange}

/-! ## What a single exchange leaves behind -/

/-- Putting an object into a store removes none. -/
theorem Has.put
    (present : store.Has key)
    (other : Key) (object : Object other.kind) :
    (store.put other object).Has key := by
  unfold Has
  by_cases same : other = key
  · subst same
    simp
  · rw [find?_put_of_ne store object same]
    exact present

theorem Has.insert
    (present : store.Has key)
    {kind : Kind} (namespaceName : String) (object : Object kind) :
    (store.insert namespaceName object).Has key :=
  present.put ⟨kind, namespaceName, object.metadata.name.getD ""⟩ object

/-- No answer to a call removes an object. -/
theorem Answers.has
    {exchange : Pass.Exchange}
    (answers : store.Answers permitted exchange after)
    (present : store.Has key) :
    after.Has key := by
  have effect := answers.effect
  generalize exchange.call = call at effect
  cases effect with
  | nothing => exact present
  | creation | replacement => exact present.insert _ _
  | update => exact present.put _ _

/-- No transcript removes an object. -/
theorem Explains.has
    (explains : Explains permitted store transcript after)
    (present : store.Has key) :
    after.Has key := by
  induction transcript generalizing store with
  | nil =>
      rw [show after = store from explains]
      exact present
  | cons exchange rest inductionHypothesis =>
      obtain ⟨middle, answers, explainsRest⟩ := explains
      exact inductionHypothesis explainsRest (answers.has present)

/-- What is seen in an exchange is there after it. -/
theorem Answers.has_of_sights
    {exchange : Pass.Exchange}
    (answers : store.Answers Verdict.Candid exchange after)
    (sights : exchange.Sights key) :
    after.Has key := by
  cases sights with
  | found kind namespaceName name object =>
      obtain ⟨rfl, found⟩ := answers.lookup
      simp [Has, found _ rfl]
  | created kind namespaceName object answer =>
      obtain ⟨-, -, rfl⟩ := answers.create_ok
      simp [Has, insert]
  | taken kind namespaceName object fault isTaken =>
      rcases answers.create_error with ⟨candid, -⟩ | ⟨-, present, -⟩
      · exact absurd isTaken candid
      · exact present

/-! ## Transcripts amid the work of others -/

/--
A store becomes another one through the exchanges of a transcript, before and after
which others do their work.
-/
def ExplainsAmid (others : Store → Store → Prop) :
    Store → List Pass.Exchange → Store → Prop
  | store, [], after => others store after
  | store, exchange :: rest, after =>
      ∃ disturbed middle, others store disturbed ∧
        disturbed.Answers Verdict.Candid exchange middle ∧
        ExplainsAmid others middle rest after

/-- A transcript without the work of others is one amid others that do nothing. -/
theorem Explains.amid
    (explains : Explains Verdict.Candid store transcript after) :
    ExplainsAmid Eq store transcript after := by
  induction transcript generalizing store with
  | nil => exact explains.symm
  | cons exchange rest inductionHypothesis =>
      obtain ⟨middle, answers, explainsRest⟩ := explains
      exact ⟨store, middle, rfl, answers, inductionHypothesis explainsRest⟩

namespace ExplainsAmid

/-- An exchange stands between two stores that are reached before and after it. -/
theorem split
    {front back : List Pass.Exchange} {exchange : Pass.Exchange}
    (explains : ExplainsAmid others store (front ++ exchange :: back) after) :
    ∃ before middle, ExplainsAmid others store front before ∧
      before.Answers Verdict.Candid exchange middle ∧
      ExplainsAmid others middle back after := by
  induction front generalizing store with
  | nil =>
      obtain ⟨disturbed, middle, works, answers, rest⟩ := explains
      exact ⟨disturbed, middle, works, answers, rest⟩
  | cons first front inductionHypothesis =>
      obtain ⟨disturbed, next, works, answers, rest⟩ := explains
      obtain ⟨before, middle, explainsFront, answersLast, explainsBack⟩ :=
        inductionHypothesis rest
      exact ⟨before, middle, ⟨disturbed, next, works, answers, explainsFront⟩,
        answersLast, explainsBack⟩

/-- What neither the others nor the exchanges undo holds in the end. -/
theorem stable
    {property : Store → Prop}
    (explains : ExplainsAmid others store transcript after)
    (underOthers : ∀ before after, others before after → property before → property after)
    (underAnswers : ∀ exchange ∈ transcript, ∀ before after,
      before.Answers Verdict.Candid exchange after → property before → property after)
    (holds : property store) :
    property after := by
  induction transcript generalizing store with
  | nil => exact underOthers store after explains holds
  | cons exchange rest inductionHypothesis =>
      obtain ⟨disturbed, middle, works, answers, explainsRest⟩ := explains
      have undisturbed := underOthers store disturbed works holds
      have answered := underAnswers exchange List.mem_cons_self disturbed middle answers
        undisturbed
      refine inductionHypothesis explainsRest ?_ answered
      intro other member
      exact underAnswers other (List.mem_cons_of_mem exchange member)

variable
  (keep : ∀ key before after, others before after → before.Has key → after.Has key)

include keep

/-- No object is removed. -/
theorem has
    (explains : ExplainsAmid others store transcript after)
    (present : store.Has key) :
    after.Has key :=
  explains.stable (keep key) (fun _ _ _ _ answers => answers.has) present

/-- What is seen on the way is there in the end. -/
theorem has_of_sees
    (explains : ExplainsAmid others store transcript after)
    (sees : Pass.Sees transcript key) :
    after.Has key := by
  obtain ⟨exchange, member, sights⟩ := sees
  obtain ⟨front, back, rfl⟩ := List.append_of_mem member
  obtain ⟨before, middle, -, answers, explainsBack⟩ := explains.split
  exact explainsBack.has keep (answers.has_of_sights sights)

/-- What is missed on the way was not there at the beginning. -/
theorem not_has_of_misses
    (explains : ExplainsAmid others store transcript after)
    (misses : Pass.Misses transcript key) :
    ¬ store.Has key := by
  obtain ⟨front, back, rfl⟩ := List.append_of_mem misses
  obtain ⟨before, middle, explainsFront, answers, -⟩ := explains.split
  have absent : before.find? key = none := answers.lookup.2 none rfl
  intro present
  have stillPresent := explainsFront.has keep present
  simp [Has, absent] at stillPresent

end ExplainsAmid

/-- The transcript of a run explains the store that the run leaves, amid the others. -/
theorem explainsAmid_run
    {α : Type}
    {outside : SharedOutside}
    (idle : ∀ store, others store store)
    (works : ∀ number store, others store (outside.meanwhile number store))
    (candid : outside.Permits Verdict.Candid)
    (part : Pass α)
    (moment : Outside.Moment) :
    ExplainsAmid others moment.store
      (part.run outside.respond moment).transcript
      (part.run outside.respond moment).state.store := by
  induction part generalizing moment with
  | done outcome => exact idle moment.store
  | ask call next inductionHypothesis =>
      have answers := answers_respond candid call
        { moment with store := outside.meanwhile moment.calls moment.store }
      exact ⟨outside.meanwhile moment.calls moment.store,
        (outside.respond call moment).2.store, works _ _, answers, inductionHypothesis _ _⟩

end Store
end LifecycleOperator
