import LifecycleOperator.Proofs.Pass.Sparing
import LifecycleOperator.Proofs.Pass.Supply

/-!
# No workload lacks its ConfigMaps

Passes are made over an installation, one after the other.  Any call may fail, a pass may
be broken off between two calls, and at any time others may add objects and change them,
as long as they remove nothing and leave alone what counts.  Whatever has come about in
this way, every workload that was created for the installation finds all ConfigMaps of
the operator that it refers to, and these hold what the templates give for it, unless
others have put them there.

What a pass may rely on is what it has seen, since nothing is removed; and that it creates
no workload before having seen what this refers to is known from its structure.
-/

namespace LifecycleOperator
namespace Pass

/-- A store over which passes are made, while others work on it as well. -/
structure Scene where
  store : Store
  /--
  What others have put into the store.  What a pass was about to create does not count, if
  others have created just this a moment before.
  -/
  foreign : Key → Prop
  /-- What the passes have asked so far, with the answers. -/
  history : List Exchange
  /-- What the current pass has still to do. -/
  remaining : Pass Phase

namespace Scene

/-- The first pass is about to be made; what there is by then is the work of others. -/
def first (namespaceName name : String) (store : Store) : Scene :=
  ⟨store, store.Has, [], reconcile namespaceName name⟩

/-- Others have done their work; what is new is theirs. -/
def meanwhile (scene : Scene) (after : Store) : Scene :=
  { scene with
    store := after
    foreign := fun key => scene.foreign key ∨ after.Has key ∧ ¬ scene.store.Has key }

/-- The current pass has made a call, which has been answered. -/
def goOn (scene : Scene) (exchange : Exchange) (after : Store) (remaining : Pass Phase) :
    Scene :=
  { scene with
    store := after
    history := scene.history ++ [exchange]
    remaining }

/-- The next pass is about to be made. -/
def turn (scene : Scene) (namespaceName name : String) : Scene :=
  { scene with remaining := reconcile namespaceName name }

/-- What may happen next. -/
inductive Step (namespaceName name : String) : Scene → Scene → Prop
  /-- Others do their work. -/
  | meanwhile (scene : Scene) (after : Store) (upholds : scene.store.Upholds after) :
      Step namespaceName name scene (scene.meanwhile after)
  /-- The current pass makes its next call, which is answered in any way. -/
  | call (scene : Scene) (call : Call) (next : Except Fault call.Result → Pass Phase)
      (isNext : scene.remaining = .ask call next)
      (answer : Except Fault call.Result) (after : Store)
      (answers : scene.store.Answers Verdict.Candid ⟨call, answer⟩ after) :
      Step namespaceName name scene (scene.goOn ⟨call, answer⟩ after (next answer))
  /-- The next pass begins, whether or not the current one has come to its end. -/
  | turn (scene : Scene) : Step namespaceName name scene (scene.turn namespaceName name)

/-- What can come about over a store. -/
inductive Reachable (namespaceName name : String) (store : Store) : Scene → Prop
  | first : Reachable namespaceName name store (first namespaceName name store)
  | step (scene next : Scene) (reachable : Reachable namespaceName name store scene)
      (step : Step namespaceName name scene next) : Reachable namespaceName name store next

/-! ## Whole passes -/

/-- A whole pass has been made in a world outside. -/
def afterPass (scene : Scene) (namespaceName name : String) (outside : Outside) : Scene :=
  let run := outside.perform (reconcile namespaceName name) scene.store
  ⟨run.state.store, scene.foreign, scene.history ++ run.transcript, .done run.outcome⟩

/-- What remains of a pass can be made to its end in any world outside. -/
theorem Reachable.run
    {namespaceName name : String} {store : Store} {foreign : Key → Prop}
    {outside : Outside}
    (candid : outside.Permits Verdict.Candid)
    (remaining : Pass Phase) (moment : Outside.Moment) (history : List Exchange)
    (reachable : Reachable namespaceName name store
      ⟨moment.store, foreign, history, remaining⟩) :
    let run := remaining.run outside.respond moment
    Reachable namespaceName name store
      ⟨run.state.store, foreign, history ++ run.transcript, .done run.outcome⟩ := by
  induction remaining generalizing moment history with
  | done outcome => simpa using reachable
  | ask call next inductionHypothesis =>
      have answers := Store.answers_respond candid call moment
      have continued := inductionHypothesis _ _ _
        (.step _ _ reachable (.call _ call next rfl _ _ answers))
      simp only [List.append_assoc, List.singleton_append] at continued
      exact continued

/-- A whole pass in any world outside is one of the things that can come about. -/
theorem Reachable.afterPass
    {namespaceName name : String} {store : Store} {scene : Scene} {outside : Outside}
    (reachable : Reachable namespaceName name store scene)
    (candid : outside.Permits Verdict.Candid) :
    Reachable namespaceName name store (scene.afterPass namespaceName name outside) :=
  Reachable.run candid (reconcile namespaceName name) ⟨scene.store, 0⟩ scene.history
    (.step _ _ reachable (.turn scene))

/-! ## What holds all the time -/

/-- An object is meant for an installation, and all ConfigMaps it refers to are there. -/
structure Provided (installation : Installation) (store : Store) (key : Key)
    (object : Object key.kind) : Prop where
  place : key.namespaceName = installation.namespaceName
  suits : object.Suits installation key.name
  present : ∀ mapName ∈ object.references, store.Has ⟨.configMap, key.namespaceName, mapName⟩

/-- What was asked in the current pass has led to where it is, and still holds. -/
structure Underway (namespaceName name : String) (installation : Installation)
    (scene : Scene) (asked : List Exchange) : Prop where
  leads : (reconcile namespaceName name).Leads asked scene.remaining
  /-- What the pass has seen is there. -/
  seen : ∀ key, Sees asked key → scene.store.Has key
  /-- The installation that the pass has found is the one that there is. -/
  met : ∀ other, found namespaceName name other ∈ asked → Object.Stays installation other

/-- What a pass has created is there, and is not the work of others. -/
def KeepsCreated (scene : Scene) : Prop :=
  ∀ kind place (object answer : Object kind),
    ⟨.cluster (.create kind place object), .ok answer⟩ ∈ scene.history →
      scene.store.Has ⟨kind, place, object.metadata.name.getD ""⟩ ∧
        ¬ scene.foreign ⟨kind, place, object.metadata.name.getD ""⟩

/-- What holds all the time. -/
structure Sound (namespaceName name : String) (installation : Installation) (scene : Scene) :
    Prop where
  installed : ∃ current,
    scene.store.find? ⟨.installation, namespaceName, name⟩ = some current ∧
      Object.Stays installation current
  provided : ∀ key object, key.kind ≠ .installation → key.kind ≠ .secret →
    scene.store.find? key = some object → ¬ scene.foreign key →
      Provided installation scene.store key object
  foreign : ∀ key, scene.foreign key → scene.store.Has key
  created : scene.KeepsCreated
  underway : ∃ asked, Underway namespaceName name installation scene asked

section Sound

variable {namespaceName name : String} {installation : Installation} {scene : Scene}

/-- An object goes on to be provided for if nothing is removed. -/
theorem Provided.of_stays
    {store after : Store} {key : Key} {object later : Object key.kind}
    (provided : Provided installation store key object)
    (stays : object.Stays later)
    (keeps : ∀ key, store.Has key → after.Has key) :
    Provided installation after key later where
  place := provided.place
  suits := provided.suits.of_stays stays
  present := by
    intro mapName member
    rw [stays.references_eq] at member
    exact keeps _ (provided.present mapName member)

/-- At the beginning there is only the work of others. -/
theorem sound_first
    {store : Store}
    (stored : store.find? ⟨.installation, namespaceName, name⟩ = some installation) :
    Sound namespaceName name installation (first namespaceName name store) where
  installed := ⟨installation, stored, Object.Stays.refl installation⟩
  provided := fun key object _ _ found own => absurd (Store.has_of_find?_eq_some found) own
  foreign := fun key present => present
  created := by simp [KeepsCreated, first]
  underway := ⟨[], .here _, by simp [Sees], by simp⟩

/-- Nothing is lost where others have been at work. -/
theorem Sound.meanwhile
    {after : Store}
    (sound : Sound namespaceName name installation scene)
    (upholds : scene.store.Upholds after) :
    Sound namespaceName name installation (scene.meanwhile after) where
  installed := by
    obtain ⟨current, stored, stays⟩ := sound.installed
    obtain ⟨later, storedLater, staysOn⟩ := upholds.kept _ current stored
    exact ⟨later, storedLater, stays.trans staysOn⟩
  provided := by
    intro key object notInstallation notSecret stored own
    simp only [Scene.meanwhile, not_or, not_and_not_right] at own
    obtain ⟨former, storedBefore⟩ := Option.isSome_iff_exists.mp
      (own.2 (Store.has_of_find?_eq_some stored))
    obtain ⟨later, storedLater, stays⟩ := upholds.kept key former storedBefore
    obtain rfl := Option.some.inj (stored.symm.trans storedLater)
    have provided := sound.provided key former notInstallation notSecret storedBefore own.1
    exact provided.of_stays stays fun _ => upholds.has
  foreign := by
    rintro key (foreign | ⟨present, -⟩)
    · exact upholds.has (sound.foreign key foreign)
    · exact present
  created := by
    intro kind place object answer member
    obtain ⟨present, own⟩ := sound.created kind place object answer member
    refine ⟨upholds.has present, ?_⟩
    rintro (foreign | ⟨-, absent⟩)
    · exact own foreign
    · exact absent present
  underway := by
    obtain ⟨asked, underway⟩ := sound.underway
    exact ⟨asked, underway.leads, fun key sees => upholds.has (underway.seen key sees),
      underway.met⟩

/-! ## What a call preserves -/

/-- What is warranted spares installations. -/
theorem sparing_of_warranted
    {asked : List Exchange} {call : Call}
    (warranted : Warranted namespaceName name asked call) :
    Sparing call := by
  match call with
  | .cluster (.create kind _ _) => exact warranted.other
  | .cluster (.replace kind _ _ _) =>
      rintro rfl
      cases warranted
  | .cluster (.lookup _ _ _) | .cluster (.patchStatus _ _ _) | .cluster (.publish _ _)
  | .fetchRelease _ | .probe => trivial

/--
An object that is there after a warranted call, and that is neither an installation nor a
secret, was there before or is warranted.
-/
theorem stored_or_warrant
    {asked : List Exchange} {call : Call} {store after : Store}
    (warranted : Warranted namespaceName name asked call)
    (effect : store.Effect call after)
    {key : Key} {object : Object key.kind}
    (notInstallation : key.kind ≠ .installation)
    (notSecret : key.kind ≠ .secret)
    (stored : after.find? key = some object) :
    store.find? key = some object ∨
      object.metadata.name.getD "" = key.name ∧
        Warrant namespaceName name asked key.namespaceName object := by
  cases effect with
  | nothing => exact .inl stored
  | creation kind place created =>
      by_cases same : (⟨kind, place, created.metadata.name.getD ""⟩ : Key) = key
      · subst same
        rw [Store.insert, Store.find?_put_self, Option.some.injEq] at stored
        subst stored
        exact .inr ⟨rfl, warranted⟩
      · rw [Store.insert, Store.find?_put_of_ne store created same] at stored
        exact .inl stored
  | replacement kind place _ secret =>
      have same : (⟨kind, place, secret.metadata.name.getD ""⟩ : Key) ≠ key := by
        rintro rfl
        exact notSecret warranted
      rw [Store.insert, Store.find?_put_of_ne store secret same] at stored
      exact .inl stored
  | update place other status installation =>
      have same : (⟨.installation, place, other⟩ : Key) ≠ key := by
        rintro rfl
        exact notInstallation rfl
      rw [Store.find?_put_of_ne store _ same] at stored
      exact .inl stored

variable {request : Call} {next : Except Fault request.Result → Pass Phase}
  {answer : Except Fault request.Result} {after : Store} {asked : List Exchange}

/-- A pass goes on from what it has seen and found. -/
theorem Underway.call
    (underway : Underway namespaceName name installation scene asked)
    (installed : ∃ current,
      scene.store.find? ⟨.installation, namespaceName, name⟩ = some current ∧
        Object.Stays installation current)
    (isNext : scene.remaining = .ask request next)
    (answers : scene.store.Answers Verdict.Candid ⟨request, answer⟩ after) :
    Underway namespaceName name installation
      (scene.goOn ⟨request, answer⟩ after (next answer)) (asked ++ [⟨request, answer⟩]) where
  leads := by
    have leads := underway.leads
    rw [isNext] at leads
    exact leads.concat answer
  seen := by
    rintro key ⟨exchange, member, sights⟩
    rcases List.mem_append.mp member with before | isLast
    · exact answers.has (underway.seen key ⟨exchange, before, sights⟩)
    · rw [List.mem_singleton.mp isLast] at sights
      exact answers.has_of_sights sights
  met := by
    intro other member
    rcases List.mem_append.mp member with before | isLast
    · exact underway.met other before
    · cases List.mem_singleton.mp isLast
      obtain ⟨current, stored, stays⟩ := installed
      obtain rfl := Option.some.inj ((answers.lookup.2 _ rfl).symm.trans stored)
      exact stays

/-- What is warranted in the current pass is provided for. -/
theorem Underway.provided
    {store : Store} {key : Key} {object : Object key.kind}
    (underway : Underway namespaceName name installation scene asked)
    (keeps : ∀ key, scene.store.Has key → store.Has key)
    (named : object.metadata.name.getD "" = key.name)
    (warrant : Warrant namespaceName name asked key.namespaceName object) :
    Provided installation store key object := by
  obtain ⟨other, finds, place, suits⟩ := warrant.meant
  have stays := underway.met other finds
  rw [named] at suits
  refine ⟨place.trans stays.1, suits.of_installation_stays stays, ?_⟩
  intro mapName member
  exact keeps _ (underway.seen _ (warrant.sighted mapName member))

/-- What holds goes on to hold when a pass makes a call, however it is answered. -/
theorem Sound.call
    (sound : Sound namespaceName name installation scene)
    (isNext : scene.remaining = .ask request next)
    (answers : scene.store.Answers Verdict.Candid ⟨request, answer⟩ after) :
    Sound namespaceName name installation
      (scene.goOn ⟨request, answer⟩ after (next answer)) := by
  obtain ⟨asked, underway⟩ := sound.underway
  have warranted : Warranted namespaceName name asked request := by
    have heeds := underway.leads.heeds heeds_reconcile
    rw [isNext] at heeds
    exact heeds.1
  have keeps : ∀ key, scene.store.Has key → after.Has key := fun _ => answers.has
  constructor
  case installed =>
    refine installed_of_answers ?_ (sparing_of_warranted warranted) answers sound.installed
    intro current status stays
    exact stays.trans (Object.stays_withStatus current status)
  case provided =>
    intro key object notInstallation notSecret stored own
    rcases stored_or_warrant warranted answers.effect notInstallation notSecret stored with
      storedBefore | ⟨named, warrant⟩
    · exact (sound.provided key object notInstallation notSecret storedBefore own).of_stays
        (Object.Stays.refl object) keeps
    · exact underway.provided keeps named warrant
  case foreign =>
    intro key foreign
    exact keeps key (sound.foreign key foreign)
  case created =>
    intro kind place object created member
    rcases List.mem_append.mp member with before | isLast
    · obtain ⟨present, own⟩ := sound.created kind place object created before
      exact ⟨keeps _ present, own⟩
    · cases List.mem_singleton.mp isLast
      obtain ⟨absent, -, -⟩ := answers.create_ok
      refine ⟨answers.has_of_sights (.created kind place object created), ?_⟩
      intro foreign
      have present := sound.foreign _ foreign
      simp [Store.Has, absent] at present
  case underway =>
    exact ⟨_, underway.call sound.installed isNext answers⟩

/-- A pass that begins has seen nothing yet. -/
theorem Sound.turn (sound : Sound namespaceName name installation scene) :
    Sound namespaceName name installation (scene.turn namespaceName name) :=
  ⟨sound.installed, sound.provided, sound.foreign, sound.created,
    ⟨[], .here _, by simp [Sees], by simp⟩⟩

/-- What holds at the beginning holds all the time. -/
theorem Reachable.sound
    {store : Store}
    (stored : store.find? ⟨.installation, namespaceName, name⟩ = some installation)
    (reachable : Reachable namespaceName name store scene) :
    Sound namespaceName name installation scene := by
  induction reachable with
  | first => exact sound_first stored
  | step scene next reachable step inductionHypothesis =>
      cases step with
      | meanwhile after upholds => exact inductionHypothesis.meanwhile upholds
      | call call next isNext answer after answers =>
          exact inductionHypothesis.call isNext answers
      | turn => exact inductionHypothesis.turn

end Sound

/-! ## No workload lacks its ConfigMaps -/

/-- A workload finds what it refers to. -/
structure Supplied (scene : Scene) (installation : Installation) (key : Key)
    (workload : Object key.kind) : Prop where
  place : key.namespaceName = installation.namespaceName
  /-- It refers to the ConfigMaps that are meant for it. -/
  refers : workload.references = installation.mapNames key.kind key.name
  /--
  Each of them is in the same namespace, and holds what the templates give, unless others
  have put it there.
  -/
  filled : ∀ mapName ∈ workload.references, ∃ map,
    scene.store.find? ⟨.configMap, key.namespaceName, mapName⟩ = some map ∧
      (¬ scene.foreign ⟨.configMap, key.namespaceName, mapName⟩ →
        ∃ data, (mapName, .ok data) ∈ installation.mapContents ∧
          map.bodyField "data" = some (Json.ofTexts data))

/-- What the table says about a ConfigMap that a workload refers to is what the workload finds. -/
theorem Supplied.holds
    {scene : Scene} {installation : Installation} {key : Key} {workload : Object key.kind}
    (supplied : scene.Supplied installation key workload)
    {mapName : String} {content : Except Fault (OrderedMap String)}
    (member : mapName ∈ workload.references)
    (listed : (mapName, content) ∈ installation.mapContents)
    (own : ¬ scene.foreign ⟨.configMap, key.namespaceName, mapName⟩) :
    ∃ map data, scene.store.find? ⟨.configMap, key.namespaceName, mapName⟩ = some map ∧
      content = .ok data ∧ map.bodyField "data" = some (Json.ofTexts data) := by
  obtain ⟨map, found, filled⟩ := supplied.filled mapName member
  obtain ⟨data, alsoListed, holds⟩ := filled own
  have same := List.inj_on_of_nodup_map installation.nodup_names_mapContents listed
    alsoListed rfl
  exact ⟨map, data, found, congrArg Prod.snd same, holds⟩

/-- No workload lacks its ConfigMaps. -/
structure Undangling (scene : Scene) (installation : Installation) : Prop where
  created : scene.KeepsCreated
  /-- A workload that is not the work of others finds what it refers to. -/
  supplied : ∀ key workload, key.kind.isWorkload = true →
    scene.store.find? key = some workload → ¬ scene.foreign key →
      scene.Supplied installation key workload

/--
No workload lacks its ConfigMaps.  Whatever has come about over a store with an
installation, by passes that fail, lose races or are broken off at any point while others
remove nothing, every workload that was created for the installation finds all ConfigMaps
that it refers to, filled from the templates unless others have put them there.
-/
theorem Reachable.undangling
    {namespaceName name : String} {installation : Installation} {store : Store}
    {scene : Scene}
    (stored : store.find? ⟨.installation, namespaceName, name⟩ = some installation)
    (reachable : Reachable namespaceName name store scene) :
    scene.Undangling installation := by
  have sound := reachable.sound stored
  refine ⟨sound.created, ?_⟩
  intro key workload isWorkload isStored own
  obtain ⟨notInstallation, notSecret⟩ := Kind.ne_of_isWorkload isWorkload
  have provided := sound.provided key workload notInstallation notSecret isStored own
  refine ⟨provided.place, provided.suits.refers, ?_⟩
  intro mapName member
  obtain ⟨map, found⟩ := Option.isSome_iff_exists.mp (provided.present mapName member)
  refine ⟨map, found, ?_⟩
  intro ownMap
  exact (sound.provided ⟨.configMap, key.namespaceName, mapName⟩ map (by simp) (by simp) found
    ownMap).suits.holds rfl

/-- The Job of `demo` tells that one of its pods has succeeded. -/
def finishDemoJob (store : Store) : Store :=
  match store.find? ⟨.job, "lm", "demo-lm-configurator"⟩ with
  | some job =>
      store.put ⟨.job, "lm", "demo-lm-configurator"⟩
        ⟨job.metadata, Entries.insert job.body "status"
          (Json.ofFields [("succeeded", Json.ofInt 1)])⟩
  | none => store

/-- Who reports on a Job upholds all that counts. -/
theorem upholds_finishDemoJob (store : Store) : store.Upholds (finishDemoJob store) := by
  have reflexive : ∀ (key : Key) (object : Object key.kind), object.Stays object :=
    fun _ => Object.Stays.refl
  unfold finishDemoJob
  split
  · rename_i job stored
    refine Store.Evolves.of_put reflexive stored ?_
    exact Entries.get?_insert_of_ne job.body _ (by decide)
  · exact Store.Evolves.refl reflexive store

/-- A world in which ConfigMaps are created by others first, and no Deployment is created. -/
def obstructed : Outside :=
  { Outside.calm with
    verdict := fun
      | _, .create .configMap _ _ => .tooLate
      | _, .create .deployment _ _ => .refuse (.other "admission denied")
      | _, _ => .carryOut }

theorem candid_obstructed : obstructed.Permits Verdict.Candid := by
  intro number call
  match call with
  | .create kind _ _ =>
      cases kind <;> simp [obstructed, Verdict.Candid, Fault.IsTaken]
  | .lookup _ _ _ | .replace _ _ _ _ | .patchStatus _ _ _ | .publish _ _ => trivial

/--
A pass over `demo` starts the configurator; once its Job has succeeded, another one rolls
out one workload, whose ConfigMap has been created by others, and is refused the next one.
-/
theorem undangling_demo :
    let store := Store.empty.insert "lm" (Installation.demo true)
    let started := (first "lm" "demo" store).afterPass "lm" "demo" Outside.calm
    let finished := started.meanwhile (finishDemoJob started.store)
    let scene := finished.afterPass "lm" "demo" obstructed
    scene.Undangling (Installation.demo true) ∧
      scene.store.Has ⟨.job, "lm", "demo-lm-configurator"⟩ ∧
      scene.store.Has ⟨.statefulSet, "lm", "conductor"⟩ ∧
      ¬ scene.store.Has ⟨.deployment, "lm", "apollo"⟩ := by
  intro store started finished scene
  have reached : Reachable "lm" "demo" store started :=
    Reachable.first.afterPass Outside.candid_calm
  have reachedFinished : Reachable "lm" "demo" store finished :=
    .step _ _ reached (.meanwhile started _ (upholds_finishDemoJob _))
  refine ⟨Reachable.undangling rfl (reachedFinished.afterPass candid_obstructed), ?_⟩
  decide +kernel

end Scene
end Pass
end LifecycleOperator
