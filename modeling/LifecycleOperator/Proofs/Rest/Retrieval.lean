import LifecycleOperator.Operator.Basic
import LifecycleOperator.Proofs.Rest.Headers
import LifecycleOperator.Proofs.Rest.Outward
import LifecycleOperator.Proofs.Rest.Trimming

/-!
# Where a release is fetched from

A release is fetched by one request, to the address that the user wrote without the slashes at
its end.  This is another address than the one that was written whenever the slashes count:
behind a name in the path, where a server may keep something else under the address without
the slash, and in a query, where they are part of what is asked.
-/

namespace LifecycleOperator

namespace RestClient

/-- An address consists of what is left of it and the slashes at its end. -/
theorem exists_split_trimEnd (address : String) :
    ∃ text more, address = String.ofList (text ++ List.replicate more '/') ∧
      trimEnd address = String.ofList text ∧ text.getLast? ≠ some '/' := by
  let left := address.toList.rdropWhile (· == '/')
  let slashes := address.toList.rtakeWhile (· == '/')
  have split : left ++ slashes = address.toList := List.rdropWhile_append_rtakeWhile
  have allSlashes : slashes = List.replicate slashes.length '/' := by
    refine List.eq_replicate_of_mem fun character member => ?_
    exact eq_of_beq (List.mem_rtakeWhile_imp (p := (· == '/')) member)
  refine ⟨left, slashes.length, ?_, rfl, ?_⟩
  · rw [← allSlashes, split, String.ofList_toList]
  · intro slashed
    obtain ⟨written, last⟩ := List.mem_getLast?_eq_getLast slashed
    exact List.rdropWhile_last_not _ _ written (beq_iff_eq.mpr last.symm)

end RestClient

/-- A request for what is at an address. -/
structure WebRequest.Gets (request : WebRequest) (url : Url) : Prop where
  method : request.method = "GET"
  body : request.body = ""
  requested : request.url.requested = url.requested

namespace Wire

variable {α β : Type} {url short : Url}

/-- Whatever it is answered, a program sends one request, for what is at an address. -/
def Gets (program : Wire α) (url : Url) : Prop :=
  ∀ transcript outcome, program.Yields transcript outcome →
    ∃ request answer, transcript = [⟨.web request, answer⟩] ∧ request.Gets url

/-- A program that gets what is at one address gets nothing else. -/
theorem Gets.iff {program : Wire α} (gets : Gets program short) :
    Gets program url ↔ url.requested = short.requested := by
  constructor
  · intro other
    have yields := Program.run_yields Web.Rehearsal.respond program
      (IshtarClient.demoServices [])
    obtain ⟨request, answer, transcript, getsShort⟩ := gets _ _ yields
    obtain ⟨request', answer', transcript', getsUrl⟩ := other _ _ yields
    rw [transcript] at transcript'
    obtain rfl : request = request' := by
      have calls := congrArg (List.map Program.Exchange.call) transcript'
      exact Call.web.inj (List.cons.inj calls).1
    rw [← getsUrl.requested, getsShort.requested]
  · intro same transcript outcome yields
    obtain ⟨request, answer, sent, ⟨method, body, requested⟩⟩ := gets transcript outcome yields
    exact ⟨request, answer, sent, method, body, requested.trans same.symm⟩

/-- An attempt to get something gets it as well. -/
theorem Gets.attempt {program : Wire α} (gets : Gets program url) : Gets program.attempt url := by
  intro transcript outcome yields
  obtain ⟨ended, -, ends⟩ := Program.yields_attempt_iff.mp yields
  exact gets transcript ended ends

/-- Nothing else is gotten by what asks for nothing afterwards. -/
theorem Gets.bind {program : Wire α} {next : α → Wire β} (gets : Gets program url)
    (silent : ∀ result, ∃ outcome, next result = .done outcome) :
    Gets (program >>= next) url := by
  intro transcript outcome yields
  rcases Program.yields_bind_iff.mp yields with
    ⟨fault, fails, -⟩ | ⟨result, front, back, succeeds, ends, rfl⟩
  · exact gets transcript _ fails
  · obtain ⟨last, isDone⟩ := silent result
    rw [isDone] at ends
    obtain ⟨rfl, -⟩ := Program.yields_done_iff.mp ends
    rw [List.append_nil]
    exact gets front _ succeeds

/-- A program gets what is at an address once the slashes at its end are dropped. -/
structure GetsTrimmed (program : Wire α) (address : String) (url : Url) : Prop where
  /-- There is one request, to the same service. -/
  gets : ∃ short, Url.read (RestClient.trimEnd address) = .ok short ∧ url.SameService short ∧
    Gets program short
  /-- It is for what is at the address itself only if the slashes make no difference. -/
  gets_iff : Gets program url ↔ url.EndsIdly address

/-- What is left of an address that can be used is all that a program needs to get. -/
theorem getsTrimmed {program : Wire α} {address : String}
    (reads : Url.read address = .ok url)
    (gets : ∀ short, Url.read (RestClient.trimEnd address) = .ok short → Gets program short) :
    GetsTrimmed program address url := by
  obtain ⟨text, more, written, trimmed, unslashed⟩ := RestClient.exists_split_trimEnd address
  cases more with
  | zero =>
      rw [List.replicate_zero, List.append_nil] at written
      have readsSame : Url.read (RestClient.trimEnd address) = .ok url := by
        rw [trimmed, ← written, reads]
      have getsUrl := gets url readsSame
      refine ⟨⟨url, readsSame, ⟨rfl, rfl, rfl, rfl⟩, getsUrl⟩, iff_of_true getsUrl ?_⟩
      exact .absent (by rwa [written, String.toList_ofList])
  | succ more =>
      have slashed : address.toList.getLast? = some '/' := by
        rw [written, String.toList_ofList, List.replicate_succ', ← List.append_assoc]
        exact List.getLast?_concat
      obtain ⟨trimming, rfl⟩ :
          ∃ trimming : Url.Trimming address (RestClient.trimEnd address),
            url = trimming.long := by
        rw [trimmed]
        subst written
        exact Url.exists_trimming reads
      have getsShort := gets trimming.short trimming.reads
      refine ⟨⟨trimming.short, trimming.reads, trimming.sameService, getsShort⟩, ?_⟩
      rw [getsShort.iff, trimming.endsIdly_iff slashed]

end Wire

namespace Manifest

/-- A release is fetched from the address that is left without slashes at its end. -/
theorem fetch_gets {agent address : String} {short : Url}
    (reads : Url.read (RestClient.trimEnd address) = .ok short) :
    Wire.Gets (fetch agent address) short := by
  intro transcript outcome yields
  rw [fetch_eq] at yields
  obtain ⟨answer, -, exchanging⟩ := RestClient.yields_reading_iff.mp yields
  obtain ⟨headers, usable⟩ : ∃ headers, (RestClient.ofBase agent address).request "GET" "" "" =
      .ok ⟨"GET", { short with user := none }, headers, ""⟩ :=
    ⟨_, RestClient.request_eq_ok_iff.mpr ⟨short, [], reads, rfl, rfl⟩⟩
  cases exchanging with
  | unsendable cause unusable =>
      rw [usable] at unusable
      cases unusable
  | sent request _ sends =>
      obtain rfl := Except.ok.inj (usable.symm.trans sends)
      exact ⟨_, answer, rfl, rfl, rfl, rfl⟩

end Manifest

namespace Pass

/-- Resolving a release fetches it, and asks for nothing else. -/
theorem resolve_gets {operator : Operator} {installation : Installation}
    {kept : Option Credential} {url : Url}
    (gets : Wire.Gets (Manifest.fetch operator.agent installation.specification.release) url) :
    Wire.Gets ((resolve installation).translate operator.implementPass kept) url := by
  have answers : Wire.Gets
      (operator.implementPass (.fetchRelease installation.specification.release) kept) url :=
    gets.attempt.bind fun _ => ⟨_, rfl⟩
  refine answers.bind fun answered => ?_
  obtain ⟨fetched, credential⟩ := answered
  cases fetched with
  | ok manifest => exact ⟨.ok (.ok _, credential), rfl⟩
  | error fault => exact ⟨.ok (.error fault, credential), rfl⟩

end Pass

/--
A release is fetched by one request, on its own and for an installation that names it.  The
request is for what is at the address of the release exactly if the slashes at the end of the
address, which are dropped, make no difference.
-/
theorem Manifest.fetch_getsTrimmed {address : String} {url : Url}
    (reads : Url.read address = .ok url) :
    (∀ agent, Wire.GetsTrimmed (fetch agent address) address url) ∧
      ∀ (operator : Operator) (installation : Installation) (kept : Option Credential),
        installation.specification.release = address →
        Wire.GetsTrimmed ((Pass.resolve installation).translate operator.implementPass kept)
          address url := by
  refine ⟨fun agent => Wire.getsTrimmed reads fun _ => fetch_gets, ?_⟩
  rintro operator installation kept rfl
  exact Wire.getsTrimmed reads fun _ readsShort => Pass.resolve_gets (fetch_gets readsShort)

/-- What is kept behind a slash is not what is fetched. -/
theorem Manifest.fetch_getsTrimmed_folder :
    let operator : Operator := ⟨default, "operator", none⟩
    let installation : Installation :=
      ⟨.empty, ⟨{ Specification.empty with release := "http://localhost/lm/2.1/" }, none⟩⟩
    let folder : Url := ⟨"http", none, "localhost", none, "/lm/2.1/", none, none⟩
    Url.read "http://localhost/lm/2.1/" = .ok folder ∧
      ¬ Wire.Gets (fetch "agent" "http://localhost/lm/2.1/") folder ∧
      ¬ Wire.Gets ((Pass.resolve installation).translate operator.implementPass none) folder := by
  intro operator installation folder
  have reads : Url.read "http://localhost/lm/2.1/" = .ok folder := by decide +kernel
  have trimmed : Url.read (RestClient.trimEnd "http://localhost/lm/2.1/") =
      .ok { folder with path := "/lm/2.1" } := by decide +kernel
  have elsewhere : folder.requested ≠ Url.requested { folder with path := "/lm/2.1" } := by decide
  have lost : ∀ {α : Type} {program : Wire α},
      Wire.GetsTrimmed program "http://localhost/lm/2.1/" folder → ¬ Wire.Gets program folder := by
    intro α program getsTrimmed
    obtain ⟨short, readsShort, -, gets⟩ := getsTrimmed.gets
    obtain rfl := Except.ok.inj (trimmed.symm.trans readsShort)
    rwa [gets.iff]
  obtain ⟨fetched, resolved⟩ := fetch_getsTrimmed reads
  exact ⟨reads, lost (fetched "agent"), lost (resolved operator installation none rfl)⟩

end LifecycleOperator
