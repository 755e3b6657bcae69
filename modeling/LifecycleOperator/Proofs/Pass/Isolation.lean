import LifecycleOperator.Proofs.Pass.Footprint
import LifecycleOperator.Proofs.Program.Regions

/-!
# Isolation of namespaces

A pass over an installation whose metadata name the namespace in which it lies reads and
writes nothing outside of this namespace, although many names are the same for all
installations.  So two passes over installations of different namespaces do not notice
each other: whatever the order in which their operations reach the store, each of them
asks for the same and ends in the same way as if they were made one after the other, in
either order, and the store ends up the same.

The store is seen here as falling into namespaces.  What a call on the store answers, and
what it makes of its namespace, depends on this namespace alone.
-/

namespace LifecycleOperator

namespace Store

/-- Two stores hold the same objects in a namespace. -/
def AgreeOn (namespaceName : String) (left right : Store) : Prop :=
  ∀ key : Key, key.namespaceName = namespaceName → left.find? key = right.find? key

theorem agreeOn_equivalence (namespaceName : String) :
    Equivalence (AgreeOn namespaceName) where
  refl := fun _ _ _ => rfl
  symm := fun agree key within => (agree key within).symm
  trans := fun first second key within => (first key within).trans (second key within)

/-- Stores are the same if they agree on every namespace. -/
theorem same_of_agreeOn
    {left right : Store}
    (agree : ∀ namespaceName, AgreeOn namespaceName left right) :
    left.Same right :=
  fun key => agree key.namespaceName key rfl

variable {namespaceName elsewhere : String} {left right store : Store}

/-- Stores that agree still do so when the same object is put into both. -/
theorem AgreeOn.put
    (agree : AgreeOn namespaceName left right) (key : Key) (object : Object key.kind) :
    AgreeOn namespaceName (left.put key object) (right.put key object) := by
  intro other within
  by_cases same : key = other
  · subst same
    rw [find?_put_self, find?_put_self]
  · rw [find?_put_of_ne left object same, find?_put_of_ne right object same]
    exact agree other within

/-- Stores that agree still do so when the same object is inserted into both. -/
theorem AgreeOn.insert
    {kind : Kind} (agree : AgreeOn namespaceName left right) (place : String)
    (object : Object kind) :
    AgreeOn namespaceName (left.insert place object) (right.insert place object) :=
  agree.put ⟨kind, place, object.metadata.name.getD ""⟩ object

/-- What is put into one namespace is not found in another one. -/
theorem agreeOn_put
    (key : Key) (object : Object key.kind) (different : elsewhere ≠ key.namespaceName) :
    AgreeOn elsewhere store (store.put key object) := by
  intro other within
  refine (find?_put_of_ne store object ?_).symm
  rintro rfl
  exact different within.symm

/-- What is inserted into one namespace is not found in another one. -/
theorem agreeOn_insert
    {kind : Kind} (object : Object kind) (different : elsewhere ≠ namespaceName) :
    AgreeOn elsewhere store (store.insert namespaceName object) :=
  agreeOn_put ⟨kind, namespaceName, object.metadata.name.getD ""⟩ object different

end Store

namespace ClusterCall

/-- A call reads and writes nothing outside of a namespace. -/
def Within (namespaceName : String) : ClusterCall → Prop
  | .lookup _ place _ => place = namespaceName
  | .create _ place _ => place = namespaceName
  | .replace _ place _ _ => place = namespaceName
  | .patchStatus place _ _ => place = namespaceName
  | .publish installation _ => installation.namespaceName = namespaceName

variable {namespaceName elsewhere : String} {call : ClusterCall} {left right store : Store}

/-- Stores that agree on the namespace of a call carry it out alike. -/
theorem Within.carryOut
    (within : call.Within namespaceName) (agree : Store.AgreeOn namespaceName left right) :
    (left.carryOut call).1 = (right.carryOut call).1 ∧
      Store.AgreeOn namespaceName (left.carryOut call).2 (right.carryOut call).2 := by
  cases call with
  | lookup kind place name =>
      subst within
      refine ⟨?_, agree⟩
      simp only [Store.carryOut, agree ⟨kind, place, name⟩ rfl]
  | create kind place object =>
      subst within
      have found := agree ⟨kind, place, object.metadata.name.getD ""⟩ rfl
      simp only [Store.carryOut, Store.create, found]
      split
      · exact ⟨rfl, agree⟩
      · exact ⟨rfl, agree.insert place object⟩
  | replace kind place name object => exact ⟨rfl, agree.insert place object⟩
  | patchStatus place name status =>
      subst within
      have found := agree ⟨.installation, place, name⟩ rfl
      simp only [Store.carryOut, Store.patchStatus, found]
      split
      · exact ⟨rfl, agree⟩
      · exact ⟨rfl, agree.put _ _⟩
  | publish installation event => exact ⟨rfl, agree⟩

/-- Stores that agree on the namespace of a call answer it alike, and still agree. -/
theorem Within.respond
    (within : call.Within namespaceName) (agree : Store.AgreeOn namespaceName left right)
    (verdict : Verdict) :
    (left.respond call verdict).1 = (right.respond call verdict).1 ∧
      Store.AgreeOn namespaceName (left.respond call verdict).2
        (right.respond call verdict).2 := by
  cases verdict with
  | carryOut => exact within.carryOut agree
  | refuse fault => exact ⟨rfl, agree⟩
  | tooLate =>
      cases call with
      | create kind place object => exact ⟨rfl, agree.insert place object⟩
      | lookup | replace | patchStatus | publish => exact within.carryOut agree

/-- Carrying a call out changes nothing in other namespaces. -/
theorem Within.carryOut_elsewhere
    (within : call.Within namespaceName) (different : elsewhere ≠ namespaceName) :
    Store.AgreeOn elsewhere store (store.carryOut call).2 := by
  cases call with
  | lookup | publish => exact (Store.agreeOn_equivalence elsewhere).refl store
  | create kind place object =>
      subst within
      simp only [Store.carryOut, Store.create]
      split
      · exact (Store.agreeOn_equivalence elsewhere).refl store
      · exact Store.agreeOn_insert object different
  | replace kind place name object =>
      subst within
      exact Store.agreeOn_insert object different
  | patchStatus place name status =>
      subst within
      simp only [Store.carryOut, Store.patchStatus]
      split
      · exact (Store.agreeOn_equivalence elsewhere).refl store
      · exact Store.agreeOn_put ⟨.installation, place, name⟩ _ different

/-- A call changes nothing in other namespaces, whatever becomes of it. -/
theorem Within.respond_elsewhere
    (within : call.Within namespaceName) (different : elsewhere ≠ namespaceName)
    (verdict : Verdict) :
    Store.AgreeOn elsewhere store (store.respond call verdict).2 := by
  cases verdict with
  | carryOut => exact within.carryOut_elsewhere different
  | refuse fault => exact (Store.agreeOn_equivalence elsewhere).refl store
  | tooLate =>
      cases call with
      | create kind place object =>
          subst within
          exact Store.agreeOn_insert object different
      | lookup | replace | patchStatus | publish => exact within.carryOut_elsewhere different

end ClusterCall

namespace Pass

/-! ## Passes over installations of their own -/

/-- A call of a pass reads and writes nothing outside of a namespace. -/
def Confined (namespaceName : String) : Call → Prop
  | .cluster call => call.Within namespaceName
  | .fetchRelease _ | .probe => True

/-- All that is asked of the cluster to install something stays in the namespace. -/
theorem mayInstall_confined (installation : Installation) :
    MayInstall (Confined installation.namespaceName) installation where
  looks := fun _ _ => rfl
  creates := fun _ _ _ => rfl
  adopts := fun _ _ => rfl
  tells := fun _ => rfl

/-- Who makes a pass over which installation, and what the pass meets beside the store. -/
structure Visitor where
  namespaceName : String
  name : String
  /-- What is found at the address of a release. -/
  release : String → Except Fault Manifest
  probe : Except Fault Bool

namespace Visitor

/-- The pass of a visitor. -/
def pass (visitor : Visitor) : Pass Phase := reconcile visitor.namespaceName visitor.name

/-- How a visitor is answered, if what becomes of a call depends on nothing but the call. -/
def respond (verdict : ClusterCall → Verdict) (visitor : Visitor) :
    Program.Responder Pass.interface Store
  | .cluster call, store => store.respond call (verdict call)
  | .fetchRelease url, store => (visitor.release url, store)
  | .probe, store => (visitor.probe, store)

/-- The pass of a visitor, made alone. -/
def run (verdict : ClusterCall → Verdict) (visitor : Visitor) (store : Store) :
    Program.Run Pass.interface Store Phase :=
  visitor.pass.run (visitor.respond verdict) store

/-- The installation of a visitor, if there is one, names the namespace in which it lies. -/
def Located (visitor : Visitor) (store : Store) : Prop :=
  ∀ installation : Installation,
    store.find? ⟨.installation, visitor.namespaceName, visitor.name⟩ = some installation →
      installation.namespaceName = visitor.namespaceName

/-- Namespaces are regions of the store for all visitors. -/
theorem regional
    {ι : Type} (verdict : ClusterCall → Verdict) (visitors : ι → Visitor) :
    Program.Regional (fun caller => (visitors caller).respond verdict) Confined
      Store.AgreeOn where
  equivalence := Store.agreeOn_equivalence
  answers := by
    intro namespaceName call confined store other agree caller
    cases call with
    | cluster call => exact (confined.respond agree (verdict call)).1
    | fetchRelease url => rfl
    | probe => rfl
  follows := by
    intro namespaceName call confined store other agree caller
    cases call with
    | cluster call => exact (confined.respond agree (verdict call)).2
    | fetchRelease url => exact agree
    | probe => exact agree
  spares := by
    intro namespaceName elsewhere call confined different caller store
    cases call with
    | cluster call => exact confined.respond_elsewhere different (verdict call)
    | fetchRelease url => exact (Store.agreeOn_equivalence elsewhere).refl store
    | probe => exact (Store.agreeOn_equivalence elsewhere).refl store

/-- Once a pass has found an installation of its namespace, it stays there. -/
theorem asks_confined_of_found
    {installation : Installation} {namespaceName : String}
    (located : installation.namespaceName = namespaceName) (name : String) :
    (do
      match ← lookup .deployment namespaceName markerDeployment with
      | none => install installation
      | some _ => follow installation namespaceName name :
        Pass Phase).Asks (Confined namespaceName) := by
  subst located
  have may := mayInstall_confined installation
  refine Program.Asks.bind ⟨rfl, fun answer => trivial⟩ ?_
  intro marked
  cases marked with
  | none => exact may.asks_install fun _ => trivial
  | some marker => exact may.mayAdopt.asks_follow trivial fun _ => rfl

/-- A pass over an installation that names its namespace stays there. -/
theorem keepsTo_run
    (verdict : ClusterCall → Verdict) {visitor : Visitor} {store : Store}
    (located : visitor.Located store) :
    (visitor.run verdict store).KeepsTo Confined visitor.namespaceName := by
  let sought : ClusterCall := .lookup .installation visitor.namespaceName visitor.name
  have answered : (store.respond sought (verdict sought)).1 =
      .ok (store.find? ⟨.installation, visitor.namespaceName, visitor.name⟩) ∨
        ∃ fault, (store.respond sought (verdict sought)).1 = .error fault := by
    cases verdict sought with
    | carryOut => exact .inl rfl
    | refuse fault => exact .inr ⟨fault, rfl⟩
    | tooLate => exact .inl rfl
  refine Program.keepsTo_ask.mpr ⟨rfl, Program.Asks.keepsTo ?_ _ _⟩
  change (Program.done (store.respond sought (verdict sought)).1 >>= _).Asks _
  rcases answered with found | ⟨fault, refused⟩
  · rw [found]
    cases stored : store.find? ⟨.installation, visitor.namespaceName, visitor.name⟩ with
    | none => trivial
    | some installation => exact asks_confined_of_found (located installation stored) _
  · rw [refused]
    trivial

end Visitor

/-! ## Two passes at the same time -/

/-- One of two visitors. -/
inductive Side
  | left
  | right
  deriving DecidableEq, Repr

/-- The other one of two visitors. -/
def Side.other : Side → Side
  | .left => .right
  | .right => .left

theorem Side.eq_other_of_ne {side first : Side} (different : side ≠ first) :
    side = first.other := by
  cases side <;> cases first <;> simp_all [Side.other]

theorem Side.other_ne (side : Side) : side.other ≠ side := by
  cases side <;> simp [Side.other]

section Isolation

variable (verdict : ClusterCall → Verdict) (visitors : Side → Visitor) (store : Store)

/-- What becomes of two passes whose operations reach the store in the order of a schedule. -/
def interleaved (schedule : List Side) : Program.Ensemble Pass.interface Store Side Phase :=
  (Program.Ensemble.start (fun side => (visitors side).pass) store).playEach
    (fun side => (visitors side).respond verdict) schedule

/-- The passes of two visitors that are made one after the other. -/
def oneByOne (first side : Side) : Program.Run Pass.interface Store Phase :=
  if side = first then (visitors first).run verdict store
  else (visitors side).run verdict ((visitors first).run verdict store).state

/--
Two passes that are made at the same time go the same way as if they were made one after
the other.
-/
structure Isolated (schedule : List Side) (first : Side) : Prop where
  /-- Each pass asks for the same, in the same order, and is answered the same. -/
  onTheWay : ∀ side,
    Program.callsOf side (interleaved verdict visitors store schedule).log <+:
      (oneByOne verdict visitors store first side).transcript
  /-- A pass that has had its turns has ended, after all its calls and with its result. -/
  ends : ∀ side,
    (oneByOne verdict visitors store first side).transcript.length ≤ schedule.count side →
      (interleaved verdict visitors store schedule).remaining side =
          .done (oneByOne verdict visitors store first side).outcome ∧
        Program.callsOf side (interleaved verdict visitors store schedule).log =
          (oneByOne verdict visitors store first side).transcript
  /-- When both have had their turns, the store is the same. -/
  settles :
    (∀ side, (oneByOne verdict visitors store first side).transcript.length ≤
      schedule.count side) →
      (interleaved verdict visitors store schedule).state.Same
        (oneByOne verdict visitors store first first.other).state

variable {visitors store}
  (apart : (visitors .left).namespaceName ≠ (visitors .right).namespaceName)
  (located : ∀ side, (visitors side).Located store)

include apart in
theorem injective_namespaceName :
    Function.Injective fun side => (visitors side).namespaceName := by
  intro side other same
  cases side <;> cases other
  · rfl
  · exact absurd same apart
  · exact absurd same.symm apart
  · rfl

include apart located

/-- The pass that is made second goes the same way as if it were made alone. -/
theorem oneByOne_eq (first side : Side) :
    (oneByOne verdict visitors store first side).outcome =
        ((visitors side).run verdict store).outcome ∧
      (oneByOne verdict visitors store first side).transcript =
        ((visitors side).run verdict store).transcript ∧
      Store.AgreeOn (visitors side).namespaceName
        (oneByOne verdict visitors store first side).state
        ((visitors side).run verdict store).state := by
  unfold oneByOne
  by_cases same : side = first
  · subst same
    rw [if_pos rfl]
    exact ⟨rfl, rfl, (Store.agreeOn_equivalence _).refl _⟩
  · rw [if_neg same]
    exact (Visitor.regional verdict visitors).run_after side first
      (Visitor.keepsTo_run verdict (located side))
      (Visitor.keepsTo_run verdict (located first))
      ((injective_namespaceName apart).ne same)

/-- The second of two passes changes nothing outside of its namespace. -/
theorem agreeOn_oneByOne_other
    (first : Side) {namespaceName : String}
    (foreign : namespaceName ≠ (visitors first.other).namespaceName) :
    Store.AgreeOn namespaceName ((visitors first).run verdict store).state
      (oneByOne verdict visitors store first first.other).state := by
  have sameCalls := (oneByOne_eq verdict apart located first first.other).2.1
  have keeps := Visitor.keepsTo_run verdict (located first.other)
  unfold Program.Run.KeepsTo at keeps
  rw [← sameCalls] at keeps
  unfold oneByOne at keeps ⊢
  rw [if_neg first.other_ne] at keeps ⊢
  exact (Visitor.regional verdict visitors).run_spares first.other keeps foreign

/--
Passes over installations of different namespaces are isolated: whatever the store, the
releases, the probes and the calls that fail, in every order of their operations each
goes the same way, and the store ends up the same, as one after the other in either
order.
-/
theorem isolated_of_apart (schedule : List Side) (first : Side) :
    Isolated verdict visitors store schedule first := by
  have regional := Visitor.regional verdict visitors
  have injective := injective_namespaceName apart
  have keeps := fun side => Visitor.keepsTo_run verdict (located side)
  have onTrack := Program.Ensemble.onTrack_play regional injective keeps schedule
  have ends : ∀ side,
      (oneByOne verdict visitors store first side).transcript.length ≤ schedule.count side →
        (interleaved verdict visitors store schedule).remaining side =
          .done ((visitors side).run verdict store).outcome := by
    intro side enough
    rw [(oneByOne_eq verdict apart located first side).2.1] at enough
    exact Program.Ensemble.ended_play regional injective keeps enough
  constructor
  · intro side
    rw [(oneByOne_eq verdict apart located first side).2.1]
    exact (onTrack side).begins_callsOf
  · intro side enough
    obtain ⟨outcome, transcript, -⟩ := oneByOne_eq verdict apart located first side
    rw [outcome, transcript]
    exact ⟨ends side enough, ((onTrack side).of_ended (ends side enough)).2.1⟩
  · intro enough
    have settled : ∀ side, Store.AgreeOn (visitors side).namespaceName
        (interleaved verdict visitors store schedule).state
        ((visitors side).run verdict store).state := fun side =>
      ((onTrack side).of_ended (ends side (enough side))).2.2
    apply Store.same_of_agreeOn
    intro namespaceName
    have equivalence := Store.agreeOn_equivalence namespaceName
    by_cases second : namespaceName = (visitors first.other).namespaceName
    · subst second
      have last := (oneByOne_eq verdict apart located first first.other).2.2
      exact equivalence.trans (settled first.other) (equivalence.symm last)
    · refine equivalence.trans ?_ (agreeOn_oneByOne_other verdict apart located first second)
      by_cases own : namespaceName = (visitors first).namespaceName
      · subst own
        exact settled first
      · have foreign : ∀ side, namespaceName ≠ (visitors side).namespaceName := by
          intro side
          by_cases same : side = first
          · rw [same]
            exact own
          · rw [Side.eq_other_of_ne same]
            exact second
        have untouched := Program.Ensemble.untouched_play regional injective keeps schedule foreign
        have spared := regional.run_spares first (keeps first) own
        exact equivalence.trans (equivalence.symm untouched) spared

end Isolation

/-- Visitors of two installations that are both called `demo`. -/
def demoVisitors : Side → Visitor
  | .left => ⟨"lm", "demo", fun _ => .ok .empty, .ok true⟩
  | .right => ⟨"staging", "demo", fun _ => .ok .empty, .ok true⟩

/-- The installations of the two visitors. -/
def demoNeighbours : Store :=
  let staged : Installation :=
    { Installation.demo false with
      metadata := { (Installation.demo false).metadata with namespaceName := some "staging" } }
  (Store.empty.insert "lm" (Installation.demo false)).insert "staging" staged

/-- In one of the two namespaces, no service may be created. -/
def stagingWithoutServices : ClusterCall → Verdict
  | .create .service "staging" _ => .refuse (.other "admission denied")
  | _ => .carryOut

/--
Two passes that take turns: one rolls everything out, the other one is stopped at its
first service, and both do so as if they were made one after the other.
-/
theorem isolated_of_apart_demo :
    let schedule := (List.replicate 150 [Side.left, Side.right]).flatten
    let last := interleaved stagingWithoutServices demoVisitors demoNeighbours schedule
    Isolated stagingWithoutServices demoVisitors demoNeighbours schedule .right ∧
      last.remaining .left = .done (.ok (.rollout .complete)) ∧
      last.remaining .right = .done (.error (.other "admission denied")) := by
  intro schedule last
  have located : ∀ side, (demoVisitors side).Located demoNeighbours := by
    intro side installation stored
    cases side with
    | left =>
        cases stored
        rfl
    | right =>
        cases stored
        rfl
  have isolated : Isolated stagingWithoutServices demoVisitors demoNeighbours schedule .right :=
    isolated_of_apart _ (by decide) located schedule .right
  refine ⟨isolated, ?_, ?_⟩
  · rw [(isolated.ends .left (by decide +kernel)).1]
    exact congrArg Program.done (by decide +kernel)
  · rw [(isolated.ends .right (by decide +kernel)).1]
    exact congrArg Program.done (by decide +kernel)

end Pass
end LifecycleOperator
