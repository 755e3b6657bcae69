import LifecycleOperator.Proofs.Pass.Creation
import LifecycleOperator.Proofs.Store.Faultless

/-!
# What is created and what is told of it

How often an object is created shows in the stores before and after: if nothing but
creations changes them, it is once if the object has come to be there, and never
otherwise.  Whoever creates an object tells so in an event whose text names the object,
and tells of no other one.  So the events can be counted with the creations.
-/

namespace LifecycleOperator

/-! ## Texts of events -/

namespace Kind

/-- No kind has a backtick in its name. -/
theorem backtick_not_mem_name (kind : Kind) : '`' ∉ kind.name.toList := by
  cases kind <;> decide

/-- A kind is known by its name. -/
theorem name_injective : Function.Injective Kind.name := by
  intro kind other equal
  cases kind <;> cases other <;> simp [Kind.name] at equal ⊢

end Kind

namespace Event

/-- An event tells that an object is created. -/
def announces (event : Event) (kind : Kind) (name : String) : Bool :=
  event.action = s!"Creating `{name}` {kind.name}"

/-- The letters of the text that tells of a creation. -/
theorem toList_creating (kind : Kind) (name : String) :
    (s!"Creating `{name}` {kind.name}").toList =
      ("Creating `".toList ++ name.toList) ++ '`' :: ' ' :: kind.name.toList := by
  simp [String.toList_append, toString]

/-- What follows the last backtick of a text, read from its end. -/
def lastWord (text : List Char) : List Char :=
  text.reverse.takeWhile (· ≠ '`')

/-- The kind stands behind the last backtick of the text. -/
theorem lastWord_append (front : List Char) (kind : Kind) :
    lastWord (front ++ '`' :: ' ' :: kind.name.toList) = kind.name.toList.reverse ++ [' '] := by
  have word : ∀ letter ∈ kind.name.toList.reverse ++ [' '], decide (letter ≠ '`') = true := by
    intro letter member
    rw [List.mem_append, List.mem_reverse, List.mem_singleton] at member
    rcases member with inName | rfl
    · have different : letter ≠ '`' := by
        rintro rfl
        exact kind.backtick_not_mem_name inName
      exact decide_eq_true different
    · decide
  have divided : (front ++ '`' :: ' ' :: kind.name.toList).reverse =
      (kind.name.toList.reverse ++ [' ']) ++ '`' :: front.reverse := by
    simp
  unfold lastWord
  rw [divided, List.takeWhile_append_of_pos word]
  simp

/-- The event of a creation tells of the object that is created, and of no other one. -/
theorem announces_created
    (instanceName : String)
    (kind other : Kind)
    (name otherName : String)
    (child : Option ObjectReference) :
    (created instanceName kind.name name child).announces other otherName = true ↔
      kind = other ∧ name = otherName := by
  unfold announces created
  rw [decide_eq_true_eq]
  constructor
  · intro equal
    have letters := congrArg String.toList equal
    rw [toList_creating, toList_creating] at letters
    -- The kind is read off first, because the name may hold anything, backticks as well.
    have words := congrArg lastWord letters
    rw [lastWord_append, lastWord_append, List.append_left_inj, List.reverse_inj] at words
    obtain rfl := Kind.name_injective (String.toList_injective words)
    rw [List.append_left_inj, List.append_right_inj] at letters
    exact ⟨rfl, String.toList_injective letters⟩
  · rintro ⟨rfl, rfl⟩
    rfl

/-- That a rollout is complete tells of no creation. -/
theorem announces_rolloutComplete
    (instanceName : String) (services : Nat) (kind : Kind) (name : String) :
    (rolloutComplete instanceName services).announces kind name = false := by
  unfold announces rolloutComplete
  rw [decide_eq_false_iff_not]
  intro equal
  have letters := congrArg String.toList equal
  rw [toList_creating] at letters
  have first := congrArg List.head? letters
  simp at first

end Event

/-! ## Counting -/

namespace Pass

namespace Exchange

/-- An object of a key is created. -/
def creates (exchange : Exchange) (key : Key) : Bool :=
  exchange.succeeded && exchange.creation? = some key

/-- It is told that an object of a key is created. -/
def announces (exchange : Exchange) (key : Key) : Bool :=
  exchange.event?.any fun event => event.announces key.kind key.name

end Exchange

/-- An object counts as one if it is there. -/
def tally (store : Store) (key : Key) : Nat :=
  if store.Has key then 1 else 0

theorem tally_eq_of_find?_eq
    {store after : Store} {key : Key}
    (same : after.find? key = store.find? key) :
    tally after key = tally store key := by
  simp only [tally, Store.has_iff_of_find?_eq same]

/-- If nothing but creations changes anything, a creation is what adds to the tally. -/
theorem tally_of_answers
    {exchange : Exchange} {store after : Store}
    (onlyCreates : exchange.mutates = true → exchange.creation?.isSome)
    (answers : store.Answers Verdict.CarriesOut exchange after)
    (key : Key) :
    (if exchange.creates key then 1 else 0) + tally store key = tally after key := by
  match exchange with
  | ⟨.fetchRelease _, _⟩ | ⟨.probe, _⟩ =>
      rw [show after = store from answers]
      simp [Exchange.creates, Exchange.creation?]
  | ⟨.cluster (.lookup _ _ _), _⟩ =>
      rw [answers.lookup.1]
      simp [Exchange.creates, Exchange.creation?]
  | ⟨.cluster (.publish _ _), _⟩ =>
      rw [answers.publish]
      simp [Exchange.creates, Exchange.creation?]
  | ⟨.cluster (.replace _ _ _ _), _⟩ | ⟨.cluster (.patchStatus _ _ _), _⟩ =>
      simp [Exchange.mutates, Operation.ofCall?, Operation.isMutation,
        Exchange.creation?] at onlyCreates
  | ⟨.cluster (.create kind namespaceName object), .error fault⟩ =>
      rw [answers.create_taken.1]
      simp [Exchange.creates, Exchange.succeeded]
  | ⟨.cluster (.create kind namespaceName object), .ok created⟩ =>
      obtain ⟨absent, -, rfl⟩ := answers.create_ok
      by_cases same : ⟨kind, namespaceName, object.metadata.name.getD ""⟩ = key
      · subst same
        simp [Exchange.creates, Exchange.succeeded, Exchange.creation?, tally, Store.Has,
          absent, Store.insert]
      · have untouched := tally_eq_of_find?_eq (Store.find?_put_of_ne store object same)
        simp [Exchange.creates, Exchange.succeeded, Exchange.creation?, same]
        exact untouched.symm

/-- An object is created once if it comes to be there, and never otherwise. -/
theorem tally_of_explains
    {transcript : List Exchange} {store after : Store}
    (onlyCreates : OnlyCreates transcript)
    (explains : Store.Explains Verdict.CarriesOut store transcript after)
    (key : Key) :
    transcript.countP (·.creates key) + tally store key = tally after key := by
  induction transcript generalizing store with
  | nil =>
      obtain rfl := explains
      simp
  | cons exchange rest inductionHypothesis =>
      obtain ⟨middle, answers, explainsRest⟩ := explains
      have first := tally_of_answers (onlyCreates exchange List.mem_cons_self) answers key
      have others := inductionHypothesis
        (fun other member => onlyCreates other (List.mem_cons_of_mem exchange member))
        explainsRest
      rw [List.countP_cons, ← others, ← first]
      omega

/-! ## Telling of what is created -/

/-- Whoever makes sure of an object tells of it just when it is created. -/
theorem Ensuring.countP_announces
    {kind : Kind} {owner : Installation} {name : String}
    {build : Except Fault (Object kind)}
    {transcript : List Exchange} {outcome : Except Fault Ensured}
    (ensuring : Ensuring kind owner name build transcript outcome)
    (smooth : ∀ exchange ∈ transcript, exchange.Smooth)
    {key : Key}
    (place : key.namespaceName = owner.namespaceName) :
    transcript.countP (·.announces key) = transcript.countP (·.creates key) := by
  cases ensuring with
  | unreadable | present | unbuilt | overtaken | rejected =>
      simp [Exchange.announces, Exchange.creates, Exchange.event?, Exchange.succeeded,
        Exchange.creation?]
  | created object built answer told =>
      have tells := smooth _ (List.mem_cons_of_mem _ (List.mem_cons_of_mem _
        List.mem_cons_self))
      cases told with
      | error fault => exact False.elim tells
      | ok told =>
          have tellsOf : (Event.created owner.anyName kind.name name
              (some answer.reference)).announces key.kind key.name =
                decide (some (⟨kind, owner.namespaceName, name⟩ : Key) = some key) := by
            rw [Bool.eq_iff_iff, Event.announces_created, decide_eq_true_eq]
            obtain ⟨otherKind, otherNamespace, otherName⟩ := key
            subst place
            simp
          simp [List.countP_cons, Exchange.announces, Exchange.creates, Exchange.event?,
            Exchange.succeeded, Exchange.creation?, Object.placedFor, tellsOf]

/-- Whoever makes sure of objects tells of each of them just when it is created. -/
theorem countP_announces_of_yields_ensureEach
    {owner : Installation} {requirements : List Requirement}
    {transcript : List Exchange} {outcome : Except Fault Unit}
    (yields : (ensureEach owner requirements).Yields transcript outcome)
    (smooth : ∀ exchange ∈ transcript, exchange.Smooth)
    {key : Key}
    (place : key.namespaceName = owner.namespaceName) :
    transcript.countP (·.announces key) = transcript.countP (·.creates key) := by
  induction requirements generalizing transcript with
  | nil =>
      obtain ⟨rfl, -⟩ := Program.yields_done_iff.mp yields
      rfl
  | cons requirement rest inductionHypothesis =>
      rcases yields_ensureEach_cons yields with
        ⟨fault, -, first⟩ | ⟨ensured, front, back, rfl, first, others⟩
      · exact first.countP_announces smooth place
      · rw [List.forall_mem_append] at smooth
        rw [List.countP_append, List.countP_append, first.countP_announces smooth.1 place,
          inductionHypothesis others smooth.2]

/-- A rollout tells of each object just when it is created. -/
theorem countP_announces_of_yields_rollout
    {installation : Installation} {manifest : Manifest}
    {transcript : List Exchange} {outcome : Except Fault Progress}
    (yields : (rollout installation
      (installation.specification.profile manifest)).Yields transcript outcome)
    (smooth : ∀ exchange ∈ transcript, exchange.Smooth)
    {key : Key}
    (place : key.namespaceName = installation.namespaceName) :
    transcript.countP (·.announces key) = transcript.countP (·.creates key) := by
  rcases yields_rollout yields with
    ⟨fault, -, ensures⟩ | ⟨front, told, -, rfl, ensures⟩
  · exact countP_announces_of_yields_ensureEach ensures smooth place
  · rw [List.forall_mem_append] at smooth
    rw [List.countP_append, List.countP_append,
      countP_announces_of_yields_ensureEach ensures smooth.1 place]
    cases told <;>
      simp [Exchange.announces, Exchange.creates, Exchange.event?, Exchange.succeeded,
        Exchange.creation?, Event.announces_rolloutComplete]

end Pass
end LifecycleOperator
