import LifecycleOperator.Proofs.Rest.Retrieval

/-!
# Joining an address and a path

The slashes at the end of the address of a client and those at the start of a path are no
part of what is joined, however many there are; a single slash is put between what is left
of both.  If nothing is left of the path there is no slash either.  Of the address and the
path no more is lost than these slashes: for one address, what is left of a path can be read
off what it is joined to.
-/

namespace LifecycleOperator
namespace RestClient

/-! ## Slashes at an end -/

/-- A text of nothing but slashes. -/
def slashes (count : Nat) : String := String.ofList (List.replicate count '/')

/-- Two texts are the same up to the number of slashes at their ends. -/
def AlikeAtEnd (first second : String) : Prop :=
  ∃ text many few, first = text ++ slashes many ∧ second = text ++ slashes few

/-- Two texts are the same up to the number of slashes at their starts. -/
def AlikeAtStart (first second : String) : Prop :=
  ∃ text many few, first = slashes many ++ text ∧ second = slashes few ++ text

/-- There are only slashes to be trimmed in a text of nothing but slashes. -/
theorem isSlash_of_mem_slashes (count : Nat) :
    ∀ character ∈ List.replicate count '/', (character == '/') = true := by
  intro character member
  exact beq_iff_eq.mpr (List.eq_of_mem_replicate member)

/-- Slashes at the end are trimmed. -/
@[simp] theorem trimEnd_append_slashes (text : String) (count : Nat) :
    trimEnd (text ++ slashes count) = trimEnd text := by
  rw [trimEnd, trimEnd, slashes, String.toList_append, String.toList_ofList,
    List.reverse_append, List.reverse_replicate,
    List.dropWhile_append_of_pos (isSlash_of_mem_slashes count)]

/-- Slashes at the start are trimmed. -/
@[simp] theorem trimStart_slashes_append (count : Nat) (text : String) :
    trimStart (slashes count ++ text) = trimStart text := by
  rw [trimStart, trimStart, slashes, String.toList_append, String.toList_ofList,
    List.dropWhile_append_of_pos (isSlash_of_mem_slashes count)]

/-- Nothing but slashes is trimmed at the end, and all of them. -/
theorem eq_trimEnd_append_slashes (text : String) :
    (∃ count, text = trimEnd text ++ slashes count) ∧
      (trimEnd text).toList.getLast? ≠ some '/' := by
  obtain ⟨left, more, written, trimmed, unslashed⟩ := exists_split_trimEnd text
  rw [trimmed]
  constructor
  · refine ⟨more, ?_⟩
    rw [written, slashes, String.ofList_append]
  · rwa [String.toList_ofList]

/-- Nothing but slashes is trimmed at the start, and all of them. -/
theorem eq_slashes_append_trimStart (text : String) :
    (∃ count, text = slashes count ++ trimStart text) ∧
      (trimStart text).toList.head? ≠ some '/' := by
  have allSlashes : text.toList.takeWhile (· == '/') =
      List.replicate (text.toList.takeWhile (· == '/')).length '/' := by
    refine List.eq_replicate_of_mem fun character member => ?_
    exact eq_of_beq (List.mem_takeWhile_imp (p := (· == '/')) member)
  constructor
  · refine ⟨(text.toList.takeWhile (· == '/')).length, ?_⟩
    rw [slashes, ← allSlashes, trimStart, ← String.ofList_append,
      List.takeWhile_append_dropWhile, String.ofList_toList]
  · intro slashed
    rw [trimStart, String.toList_ofList] at slashed
    have stops := List.head?_dropWhile_not (· == '/') text.toList
    rw [slashed] at stops
    simp at stops

/-- Nothing is left of a path just if it consists of slashes. -/
theorem trimStart_eq_empty_iff (path : String) :
    trimStart path = "" ↔ ∀ character ∈ path.toList, character = '/' := by
  rw [← String.toList_inj, trimStart, String.toList_ofList, String.toList_empty,
    List.dropWhile_eq_nil_iff]
  simp only [beq_iff_eq]

/-! ## Joining -/

/-- The client, if it had been made for the service at another address. -/
def atBase (client : RestClient) (base : String) : RestClient :=
  { client with base := (ofBase client.agent base).base }

@[simp] theorem headers_atBase (client : RestClient) (base : String) :
    (client.atBase base).headers = client.headers := rfl

@[simp] theorem agent_atBase (client : RestClient) (base : String) :
    (client.atBase base).agent = client.agent := rfl

variable (client : RestClient) (base : String) {path other : String}

/-- A path of which nothing is left leads to what is left of the address. -/
theorem url_atBase_of_empty (nothing : trimStart path = "") :
    (client.atBase base).url path = trimEnd base := by
  have isEmpty : (trimStart path).isEmpty = true := String.isEmpty_iff.mpr nothing
  exact if_pos isEmpty

/-- What is left of a path is joined to what is left of the address. -/
theorem url_atBase_of_nonempty (something : trimStart path ≠ "") :
    (client.atBase base).url path = trimEnd base ++ "/" ++ trimStart path := by
  have nonempty : ¬ (trimStart path).isEmpty = true := fun isEmpty =>
    something (String.isEmpty_iff.mp isEmpty)
  exact if_neg nonempty

/-- What is left of a path can be read off what it is joined to. -/
theorem trimStart_eq_of_url_eq
    (same : (client.atBase base).url other = (client.atBase base).url path) :
    trimStart other = trimStart path := by
  -- A slash in between is seen even if nothing stood behind it.
  have longer : ∀ text : String, trimEnd base ++ "/" ++ text ≠ trimEnd base := by
    intro text equal
    have lengths := congrArg String.length equal
    simp only [String.length_append] at lengths
    have one : "/".length = 1 := rfl
    omega
  by_cases nothing : trimStart path = ""
  · by_cases otherNothing : trimStart other = ""
    · rw [nothing, otherNothing]
    · rw [url_atBase_of_nonempty client base otherNothing,
        url_atBase_of_empty client base nothing] at same
      exact absurd same (longer _)
  · by_cases otherNothing : trimStart other = ""
    · rw [url_atBase_of_empty client base otherNothing,
        url_atBase_of_nonempty client base nothing] at same
      exact absurd same.symm (longer _)
    · rw [url_atBase_of_nonempty client base otherNothing,
        url_atBase_of_nonempty client base nothing] at same
      exact (String.append_right_inj _).mp same

/-- How the address of a client and a path are joined to the address of a request. -/
structure Joins (client : RestClient) (base path : String) : Prop where
  /-- The address without the slashes at its end, and what is lost. -/
  base_eq : (∃ count, base = trimEnd base ++ slashes count) ∧
    (trimEnd base).toList.getLast? ≠ some '/'
  /-- The path without the slashes at its start, and what is lost. -/
  path_eq : (∃ count, path = slashes count ++ trimStart path) ∧
    (trimStart path).toList.head? ≠ some '/'
  /-- The same is requested, however many slashes there are. -/
  unchanged : ∀ otherBase otherPath, AlikeAtEnd base otherBase → AlikeAtStart path otherPath →
    (client.atBase otherBase).url otherPath = (client.atBase base).url path ∧
      ∀ method body, (client.atBase otherBase).request method otherPath body =
        (client.atBase base).request method path body
  /-- If the path has more to it than slashes, a single slash is put between what is left. -/
  joined : (∃ character ∈ path.toList, character ≠ '/') →
    (client.atBase base).url path = trimEnd base ++ "/" ++ trimStart path ∧
      trimStart path ≠ ""
  /-- Otherwise, what is left of the address is all. -/
  bare : (∀ character ∈ path.toList, character = '/') →
    (client.atBase base).url path = trimEnd base
  /-- Paths of which different texts are left are told apart. -/
  apart : ∀ other, trimStart other ≠ trimStart path →
    (client.atBase base).url other ≠ (client.atBase base).url path

/-- The address of a client and a path are joined in this way, whatever they are. -/
theorem url_joins (client : RestClient) (base path : String) : client.Joins base path := by
  constructor
  · exact eq_trimEnd_append_slashes base
  · exact eq_slashes_append_trimStart path
  · rintro otherBase otherPath ⟨text, many, few, rfl, rfl⟩ ⟨left, more, less, rfl, rfl⟩
    have sameUrl : (client.atBase (text ++ slashes few)).url (slashes less ++ left) =
        (client.atBase (text ++ slashes many)).url (slashes more ++ left) := by
      simp only [url, atBase, ofBase, trimEnd_append_slashes, trimStart_slashes_append]
    refine ⟨sameUrl, fun method body => ?_⟩
    simp only [request, sameUrl, headers_atBase, agent_atBase]
  · rintro ⟨character, member, other⟩
    have something : trimStart path ≠ "" := by
      intro nothing
      exact other ((trimStart_eq_empty_iff path).mp nothing character member)
    exact ⟨url_atBase_of_nonempty client base something, something⟩
  · intro allSlashes
    exact url_atBase_of_empty client base ((trimStart_eq_empty_iff path).mpr allSlashes)
  · intro other different same
    exact different (trimStart_eq_of_url_eq client base same)

/-- Where nothing is left of the address, a path begins with the slash in between. -/
example : (ofBase "agent" "//").url "//api/login/" = "/api/login/" := by decide +kernel

end RestClient
end LifecycleOperator
