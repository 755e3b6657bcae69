import LifecycleOperator.Proofs.Ishtar.Verdict
import Mathlib.Data.List.TakeWhile

/-!
# The process that takes care of an assembly

Whoever asks for an assembly is told of a process by the place that the response points to:
its last segment is the name of the process, where slashes at the end do not count.  There is
one such segment in a place that does not consist of slashes alone, and none in one that does,
so that the response decides which process is told of, and if one is.
-/

namespace LifecycleOperator
namespace IshtarClient

/-! ## The last segment of a place -/

/-- A place ends in a segment, with nothing but slashes behind it. -/
structure EndsIn (location segment : String) : Prop where
  nonempty : segment ≠ ""
  unbroken : '/' ∉ segment.toList
  /-- A slash stands in front of the segment, or nothing at all. -/
  split : ∃ front back, location = front ++ segment ++ back ∧
    (front = "" ∨ ∃ folder, front = folder ++ "/") ∧ ∀ character ∈ back.toList, character = '/'

/-- What stands between the last slash and the slashes at the end. -/
def lastSegment (location : List Char) : List Char :=
  ((location.reverse.dropWhile (· == '/')).takeWhile (· != '/')).reverse

/-- A process is named by the last segment, if there is one. -/
theorem processId?_eq_some_iff_lastSegment {location process : String} :
    processId? location = some process ↔
      lastSegment location.toList = process.toList ∧ process ≠ "" := by
  unfold processId?
  extract_lets trimmed
  split
  next missing =>
    change lastSegment location.toList = [] at missing
    refine iff_of_false (Option.some_ne_none process).symm fun ⟨named, nonempty⟩ => nonempty ?_
    rw [← String.toList_inj, ← named, missing]
    rfl
  next present =>
    change lastSegment location.toList = [] → False at present
    change some (String.ofList (lastSegment location.toList)) = some process ↔ _
    rw [Option.some.injEq, ← String.toList_inj, String.toList_ofList]
    refine ⟨fun same => ⟨same, ?_⟩, And.left⟩
    rintro rfl
    exact present same

/-- A text consists of what is in front of the last segment, the segment, and slashes. -/
theorem exists_split_lastSegment (location : List Char) :
    ∃ front back, location = front ++ lastSegment location ++ back ∧
      (front = [] ∨ ∃ folder, front = folder ++ ['/']) ∧ ∀ character ∈ back, character = '/' := by
  let trimmed := location.reverse.dropWhile (· == '/')
  have whole : location.reverse =
      location.reverse.takeWhile (· == '/') ++
        (trimmed.takeWhile (· != '/') ++ trimmed.dropWhile (· != '/')) := by
    rw [List.takeWhile_append_dropWhile, List.takeWhile_append_dropWhile]
  refine ⟨(trimmed.dropWhile (· != '/')).reverse, (location.reverse.takeWhile (· == '/')).reverse,
    ?_, ?_, ?_⟩
  · have turned := congrArg List.reverse whole
    rwa [List.reverse_reverse, List.reverse_append, List.reverse_append] at turned
  · have stops := List.head?_dropWhile_not (· != '/') trimmed
    cases rest : trimmed.dropWhile (· != '/') with
    | nil => exact .inl rfl
    | cons slash folder =>
        rw [rest] at stops
        obtain rfl : slash = '/' := by simpa using stops
        exact .inr ⟨folder.reverse, List.reverse_cons⟩
  · intro character member
    simpa using List.mem_takeWhile_imp (List.mem_reverse.mp member)

theorem slash_notMem_lastSegment (location : List Char) : '/' ∉ lastSegment location := by
  intro member
  simpa using List.mem_takeWhile_imp (List.mem_reverse.mp member)

/-- A text has no last segment just when it consists of slashes. -/
theorem lastSegment_eq_nil_iff (location : List Char) :
    lastSegment location = [] ↔ ∀ character ∈ location, character = '/' := by
  have stops := List.head?_dropWhile_not (· == '/') location.reverse
  have allSlashes : location.reverse.dropWhile (· == '/') = [] ↔
      ∀ character ∈ location, character = '/' := by
    simp [List.dropWhile_eq_nil_iff]
  rw [← allSlashes, lastSegment, List.reverse_eq_nil_iff]
  cases trimmed : location.reverse.dropWhile (· == '/') with
  | nil => simp
  | cons character rest =>
      rw [trimmed] at stops
      have kept : (character != '/') = true := by simpa using stops
      simp [kept]

/-- However a text is split, the last segment is the same. -/
theorem lastSegment_of_split
    {front segment back : List Char}
    (nonempty : segment ≠ []) (unbroken : '/' ∉ segment)
    (starts : front = [] ∨ ∃ folder, front = folder ++ ['/'])
    (slashes : ∀ character ∈ back, character = '/') :
    lastSegment (front ++ segment ++ back) = segment := by
  have noSlash : ∀ character ∈ segment, character ≠ '/' :=
    fun character member same => unbroken (same ▸ member)
  have trimmed : (front ++ segment ++ back).reverse.dropWhile (· == '/') =
      segment.reverse ++ front.reverse := by
    rw [List.reverse_append, List.reverse_append,
      List.dropWhile_append_of_pos (by simpa using slashes)]
    obtain ⟨character, rest, reversed⟩ :=
      List.exists_cons_of_ne_nil (List.reverse_ne_nil_iff.mpr nonempty)
    have kept : (character == '/') = false := by
      have member : character ∈ segment := by
        rw [← List.mem_reverse, reversed]
        exact List.mem_cons_self
      simpa using noSlash character member
    rw [reversed, List.cons_append, List.dropWhile_cons, kept]
    rfl
  have taken : front.reverse.takeWhile (· != '/') = [] := by
    rcases starts with rfl | ⟨folder, rfl⟩
    · rfl
    · rw [List.reverse_append]
      rfl
  rw [lastSegment, trimmed, List.takeWhile_append_of_pos (by simpa using noSlash), taken,
    List.append_nil, List.reverse_reverse]

/-- The process that a place names is its last segment. -/
theorem processId?_eq_some_iff {location process : String} :
    processId? location = some process ↔ EndsIn location process := by
  rw [processId?_eq_some_iff_lastSegment]
  constructor
  · rintro ⟨segment, nonempty⟩
    obtain ⟨front, back, whole, starts, slashes⟩ := exists_split_lastSegment location.toList
    rw [segment] at whole
    refine ⟨nonempty, segment ▸ slash_notMem_lastSegment location.toList, String.ofList front,
      String.ofList back, ?_, ?_, ?_⟩
    · rw [← String.toList_inj, String.toList_append, String.toList_append, String.toList_ofList,
        String.toList_ofList, whole]
    · refine starts.imp (fun missing => ?_) fun ⟨folder, ends⟩ => ⟨String.ofList folder, ?_⟩
      · rw [missing]
      · rw [ends, String.ofList_append]
    · rwa [String.toList_ofList]
  · rintro ⟨nonempty, unbroken, front, back, rfl, starts, slashes⟩
    refine ⟨?_, nonempty⟩
    rw [String.toList_append, String.toList_append]
    refine lastSegment_of_split (fun missing => nonempty ?_) unbroken ?_ slashes
    · rw [← String.toList_inj, missing]
      rfl
    · refine starts.imp (fun missing => ?_) fun ⟨folder, ends⟩ => ⟨folder.toList, ?_⟩
      · rw [missing]
        rfl
      · rw [ends, String.toList_append]
        rfl

/-- A place names a process unless it consists of slashes. -/
theorem exists_endsIn_iff {location : String} :
    (∃ process, EndsIn location process) ↔ ∃ character ∈ location.toList, character ≠ '/' := by
  have named : (∃ process, EndsIn location process) ↔ lastSegment location.toList ≠ [] := by
    simp only [← processId?_eq_some_iff, processId?_eq_some_iff_lastSegment]
    constructor
    · rintro ⟨process, segment, nonempty⟩ missing
      refine nonempty ?_
      rw [← String.toList_inj, ← segment, missing]
      rfl
    · intro nonempty
      refine ⟨String.ofList (lastSegment location.toList), String.toList_ofList.symm, ?_⟩
      intro same
      rw [← String.toList_inj, String.toList_ofList] at same
      exact nonempty same
  rw [named, ne_eq, lastSegment_eq_nil_iff]
  simp

/-- The slashes in front of the last segment and behind it do not count. -/
example : processId? "https://ishtar:8280//api/processes/4f2c-11//" = some "4f2c-11" := by
  decide +kernel

/-! ## What a response tells -/

/-- A text can be read off a header: visible characters, blanks and tabulators. -/
def Readable (value : String) : Prop :=
  ∀ character ∈ value.toList, character = '\t' ∨ character = ' ' ∨
    '!' ≤ character ∧ character ≤ '~'

/-- The first place that a response points to can be read, and is this one. -/
structure PointsTo (response : WebResponse) (location : String) : Prop where
  given : response.header? "location" = some location
  readable : Readable location

theorem isReadable_iff (value : String) : isReadable value = true ↔ Readable value := by
  have visible : ∀ character : Char,
      (character == '\t' || (0x20 ≤ character.toNat && character.toNat < 0x7F)) = true ↔
        character = '\t' ∨ character = ' ' ∨ '!' ≤ character ∧ character ≤ '~' := by
    intro character
    have blank : character = ' ' ↔ character.toNat = 0x20 := by
      rw [← Char.toNat_inj]
      rfl
    have lower : '!' ≤ character ↔ 0x21 ≤ character.toNat := Iff.rfl
    have upper : character ≤ '~' ↔ character.toNat ≤ 0x7E := Iff.rfl
    simp only [Bool.or_eq_true, Bool.and_eq_true, beq_iff_eq, decide_eq_true_eq, blank, lower,
      upper]
    refine or_congr_right ?_
    omega
  simp only [isReadable, List.all_eq_true, visible, Readable]

/-- A response is taken to point to an empty place if its first one cannot be read. -/
theorem processId?_locationOf_eq_some_iff {response : WebResponse} {process : String} :
    processId? (locationOf response) = some process ↔
      ∃ location, PointsTo response location ∧ EndsIn location process := by
  have nowhere : ¬ processId? "" = some process := by
    rw [processId?_eq_some_iff_lastSegment]
    exact fun ⟨missing, nonempty⟩ => nonempty (String.toList_inj.mp missing.symm)
  rw [locationOf]
  cases given : response.header? "location" with
  | none =>
      refine iff_of_false nowhere ?_
      rintro ⟨location, ⟨found, -⟩, -⟩
      rw [given] at found
      cases found
  | some location =>
      by_cases readable : isReadable location = true
      · simp only [readable, if_true, processId?_eq_some_iff]
        constructor
        · exact fun ends => ⟨location, ⟨given, (isReadable_iff location).mp readable⟩, ends⟩
        · rintro ⟨other, ⟨found, -⟩, ends⟩
          obtain rfl := Option.some.inj (given.symm.trans found)
          exact ends
      · simp only [readable]
        refine iff_of_false nowhere ?_
        rintro ⟨other, ⟨found, isReadable⟩, -⟩
        obtain rfl := Option.some.inj (given.symm.trans found)
        exact readable ((isReadable_iff location).mpr isReadable)

/-- The faults of a response that tells of no process. -/
inductive ProcessFault (response : WebResponse) : Fault → Prop
  /-- The response does not say that something was created. -/
  | uncreated (other : response.code ≠ 201) :
      ProcessFault response (.methodFailed "Post" response.code
        ("The server returned the error: " ++ toString response.code ++ " " ++
          (responseReason? response.code).getD "unknown" ++ " | " ++ response.text))
  /-- Something was created, but the response points to no process. -/
  | nowhere (created : response.code = 201)
      (unnamed : ¬ ∃ location process, PointsTo response location ∧ EndsIn location process) :
      ProcessFault response
        (.other ("no process id in location '" ++ locationOf response ++ "'"))

/-- A process is told of by a response that points to one it has created. -/
theorem processOf_eq_ok_iff {response : WebResponse} {process : String} :
    processOf response = .ok process ↔
      response.code = 201 ∧ ∃ location, PointsTo response location ∧ EndsIn location process := by
  rw [← processId?_locationOf_eq_some_iff, processOf]
  by_cases created : response.code = 201
  · simp only [created, bne_self_eq_false, Bool.false_eq_true, if_false, true_and]
    cases processId? (locationOf response) <;> simp
  · simp [created]

/-- A response that tells of no process is a fault of one of two kinds. -/
theorem processFault_of_processOf {response : WebResponse} {fault : Fault}
    (fails : processOf response = .error fault) : ProcessFault response fault := by
  simp only [processOf] at fails
  split at fails
  · rename_i other
    obtain rfl := Except.error.inj fails
    exact .uncreated (by simpa using other)
  · rename_i created
    have isCreated : response.code = 201 := by simpa using created
    cases named : processId? (locationOf response) with
    | some process =>
        rw [named] at fails
        cases fails
    | none =>
        rw [named] at fails
        obtain rfl := Except.error.inj fails
        refine .nowhere isCreated ?_
        rintro ⟨location, process, points, ends⟩
        rw [processId?_locationOf_eq_some_iff.mpr ⟨location, points, ends⟩] at named
        cases named

/-! ## Asking for an assembly -/

variable {ishtar : IshtarClient} {kept : Option Credential} {transcript : List Wire.Exchange}

/-- How one who asks for an assembly is told of the process that takes care of it. -/
structure TellsOfProcess (ishtar : IshtarClient) : Prop where
  /-- With a token ishtar is asked, and the call comes to its end whatever the answer is. -/
  asks : ∀ request kept front token left sent answer,
    (ishtar.security.token kept).Yields front (.ok ⟨.ok token, left⟩) →
    (ishtar.bearer token).request "POST" "api/intent/createAssembly" request.toJson.text =
      .ok sent →
    ∃ result, (ishtar.createAssembly kept request).Yields (front ++ [⟨.web sent, answer⟩])
      (.ok ⟨result, left⟩)
  /-- A process is the last segment of the place that a response 201 points to. -/
  tells : ∀ request kept transcript outcome response,
    (ishtar.createAssembly kept request).Yields transcript outcome →
    ishtar.Asked kept transcript (.ok response) →
    ∃ result left, outcome = .ok ⟨result, left⟩ ∧
      ∀ process, result = .ok process ↔
        response.code = 201 ∧ ∃ location, PointsTo response location ∧ EndsIn location process
  /-- There is one just when that place does not consist of slashes. -/
  succeeds : ∀ request kept transcript result left response,
    (ishtar.createAssembly kept request).Yields transcript (.ok ⟨result, left⟩) →
    ishtar.Asked kept transcript (.ok response) →
    ((∃ process, result = .ok process) ↔
      response.code = 201 ∧ ∃ location, PointsTo response location ∧
        ∃ character ∈ location.toList, character ≠ '/')
  /-- Everything else is a fault, with the code of the response if that is not 201. -/
  fails : ∀ request kept transcript fault left response,
    (ishtar.createAssembly kept request).Yields transcript (.ok ⟨.error fault, left⟩) →
    ishtar.Asked kept transcript (.ok response) →
    ProcessFault response fault

/-- A response decides how the call ends. -/
theorem outcome_of_asked
    {request : AssemblyRequest} {outcome : Except Fault (Outcome String)} {response : WebResponse}
    (yields : (ishtar.createAssembly kept request).Yields transcript outcome)
    (asked : ishtar.Asked kept transcript (.ok response)) :
    ∃ left, outcome = .ok ⟨processOf response, left⟩ := by
  rw [createAssembly_eq] at yields
  exact asked.result_eq yields

/-- One who asks for an assembly is told of its process by the response, and by it alone. -/
theorem createAssembly_tellsOfProcess (ishtar : IshtarClient) : ishtar.TellsOfProcess where
  asks := by
    intro request kept front token left sent answer obtains made
    have requests : (ishtar.bearer token).request (Errand.createAssembly request).method
        (Errand.createAssembly request).path (Errand.createAssembly request).body =
          .ok sent := made
    rw [createAssembly_eq]
    exact yields_perform_of_obtains obtains requests answer
  tells := by
    intro request kept transcript outcome response yields asked
    obtain ⟨left, rfl⟩ := outcome_of_asked yields asked
    exact ⟨_, left, rfl, fun process => processOf_eq_ok_iff⟩
  succeeds := by
    intro request kept transcript result left response yields asked
    obtain ⟨_, ends⟩ := outcome_of_asked yields asked
    obtain ⟨rfl, -⟩ := Outcome.mk.inj (Except.ok.inj ends)
    simp only [processOf_eq_ok_iff, ← exists_endsIn_iff]
    constructor
    · rintro ⟨process, created, location, points, segment⟩
      exact ⟨created, location, points, process, segment⟩
    · rintro ⟨created, location, points, process, segment⟩
      exact ⟨process, created, location, points, segment⟩
  fails := by
    intro request kept transcript fault left response yields asked
    obtain ⟨_, ends⟩ := outcome_of_asked yields asked
    obtain ⟨means, -⟩ := Outcome.mk.inj (Except.ok.inj ends)
    exact processFault_of_processOf means.symm

/-- A response that points to a process. -/
def demoPlace (code : Nat) (location : String) : WebResponse :=
  ⟨code, [("location", location)], ""⟩

/-- A process is told of although slashes stand behind it. -/
theorem createAssembly_tellsOfProcess_trailing :
    let run := (demo.createAssembly none ⟨"a", "b", "Active", .empty⟩).run Web.Rehearsal.respond
      (demoServices [demoGrant, demoPlace 201 "/api/processes/4f2c-11//"])
    run.outcome = .ok ⟨.ok "4f2c-11", some ⟨⟨"abc", "", 1200, ""⟩, 0⟩⟩ ∧
      EndsIn "/api/processes/4f2c-11//" "4f2c-11" := by
  intro run
  have goes : run.outcome = .ok ⟨.ok "4f2c-11", some ⟨⟨"abc", "", 1200, ""⟩, 0⟩⟩ ∧
      (Wire.responses run.transcript).getLast? =
        some (demoPlace 201 "/api/processes/4f2c-11//") := by
    decide +kernel
  obtain ⟨ends, last⟩ := goes
  have yields : (demo.createAssembly none ⟨"a", "b", "Active", .empty⟩).Yields run.transcript
      run.outcome := Program.run_yields _ _ _
  have asked : demo.Asked none run.transcript
      (.ok (demoPlace 201 "/api/processes/4f2c-11//")) := by
    rw [createAssembly_eq, ends] at yields
    exact asked_of_getLast? yields last
  obtain ⟨result, left, same, tells⟩ :=
    (createAssembly_tellsOfProcess demo).tells _ none run.transcript run.outcome _ yields asked
  obtain ⟨rfl, -⟩ := Outcome.mk.inj (Except.ok.inj (ends.symm.trans same))
  obtain ⟨-, location, points, segment⟩ := (tells "4f2c-11").mp rfl
  obtain rfl := Option.some.inj points.given
  exact ⟨ends, segment⟩

end IshtarClient
end LifecycleOperator
