import LifecycleOperator.Json.Document
import Mathlib.Data.List.Forall2

/-!
# Fields of texts

What a JSON text says in a field of its top level.  A text is read as a value just when its
document is whole, so that every leaf and every name in it has a value, and nests less deep
than the limit.  Of fields with the same name the last one counts, wherever it stands and
whatever the others hold.
-/

namespace LifecycleOperator
namespace Document

/-! ## Documents that have a value -/

mutual

/-- How deep arrays and objects nest. -/
def nesting : Document → Nat
  | .null | .bool _ | .number _ | .string _ => 0
  | .array items => nestingOfItems items + 1
  | .object fields => nestingOfFields fields + 1

/-- How deep the deepest item nests. -/
def nestingOfItems : List Document → Nat
  | [] => 0
  | item :: rest => max (nesting item) (nestingOfItems rest)

/-- How deep the deepest field nests. -/
def nestingOfFields : List (Option String × Document) → Nat
  | [] => 0
  | (_, field) :: rest => max (nesting field) (nestingOfFields rest)

end

mutual

/-- Every leaf and every name has a value. -/
def IsWhole : Document → Prop
  | .null | .bool _ => True
  | .number value => value.isSome
  | .string text => text.isSome
  | .array items => AreWholeItems items
  | .object fields => AreWholeFields fields

/-- All items are whole. -/
def AreWholeItems : List Document → Prop
  | [] => True
  | item :: rest => IsWhole item ∧ AreWholeItems rest

/-- All fields are whole, and their names too. -/
def AreWholeFields : List (Option String × Document) → Prop
  | [] => True
  | (name, field) :: rest => name.isSome ∧ IsWhole field ∧ AreWholeFields rest

end

/-- What is made of two values exists just when both exist. -/
theorem isSome_bind_map {α β γ : Type} (first : Option α) (second : Option β) (make : α → β → γ) :
    (first.bind fun one => second.map (make one)).isSome = true ↔
      first.isSome = true ∧ second.isSome = true := by
  cases first <;> simp

mutual

/-- A document has a value just when it is whole and does not nest too deep. -/
theorem isSome_toJson?_iff : (document : Document) → (depth : Nat) →
    ((toJson? depth document).isSome = true ↔
      document.IsWhole ∧ document.nesting ≤ depth - 1)
  | .null, _ | .bool _, _ => by simp [toJson?, IsWhole, nesting]
  | .number _, _ | .string _, _ => by simp [toJson?, IsWhole, nesting]
  | .array items, depth => by
      rw [toJson?, IsWhole, nesting]
      split
      · simp only [Option.isSome_none, Bool.false_eq_true, false_iff]
        omega
      · rw [Option.isSome_map, isSome_itemsToJson?_iff items]
        exact and_congr_right fun _ => by omega
  | .object fields, depth => by
      rw [toJson?, IsWhole, nesting]
      split
      · simp only [Option.isSome_none, Bool.false_eq_true, false_iff]
        omega
      · rw [Option.isSome_map, isSome_fieldsToJson?_iff fields]
        exact and_congr_right fun _ => by omega

/-- Items have values just when all of them are whole and none nests too deep. -/
theorem isSome_itemsToJson?_iff : (items : List Document) → (depth : Nat) →
    ((itemsToJson? depth items).isSome = true ↔
      AreWholeItems items ∧ nestingOfItems items ≤ depth - 1)
  | [], _ => by simp [itemsToJson?, AreWholeItems, nestingOfItems]
  | item :: rest, depth => by
      rw [itemsToJson?, isSome_bind_map, isSome_toJson?_iff item, isSome_itemsToJson?_iff rest,
        AreWholeItems, nestingOfItems, Nat.max_le]
      exact and_and_and_comm

/-- Fields have values just when all of them are whole and none nests too deep. -/
theorem isSome_fieldsToJson?_iff : (fields : List (Option String × Document)) → (depth : Nat) →
    ((fieldsToJson? depth fields).isSome = true ↔
      AreWholeFields fields ∧ nestingOfFields fields ≤ depth - 1)
  | [], _ => by simp [fieldsToJson?, AreWholeFields, nestingOfFields]
  | (none, field) :: rest, depth => by simp [fieldsToJson?, AreWholeFields]
  | (some name, field) :: rest, depth => by
      rw [fieldsToJson?, Option.bind_some, isSome_bind_map, isSome_toJson?_iff field,
        isSome_fieldsToJson?_iff rest, AreWholeFields, nestingOfFields, Nat.max_le]
      simp only [Option.isSome_some, true_and]
      exact and_and_and_comm

end

/-- A document has a value within the limit of nesting. -/
def IsValue (document : Document) : Prop :=
  document.IsWhole ∧ document.nesting < Json.depthLimit

/-- A text can be read just when its document has a value. -/
theorem isSome_read?_iff (text : String) :
    (Json.read? text).isSome = true ↔ ∃ document, read? text = some document ∧ document.IsValue := by
  unfold Json.read?
  cases read? text with
  | none => simp
  | some document =>
      rw [Option.bind_some, isSome_toJson?_iff]
      simp [IsValue, Json.depthLimit, Nat.lt_iff_le_pred]

/-! ## The last field of a name -/

variable {fields : List (Option String × Document)} {pairs : List (String × Json)} {depth : Nat}

/-- The last field of a name. -/
def IsLast (fields : List (Option String × Document)) (name : String) (field : Document) : Prop :=
  ∃ front back, fields = front ++ (some name, field) :: back ∧
    ∀ other ∈ back, other.1 ≠ some name

theorem isLast_iff {name : String} {field : Document} :
    IsLast fields name field ↔ fields.reverse.lookup (some name) = some field := by
  rw [List.lookup_eq_some_iff]
  constructor
  · rintro ⟨front, back, rfl, unlike⟩
    refine ⟨back.reverse, front.reverse, by simp, fun other member => ?_⟩
    simpa using (unlike other (List.mem_reverse.mp member)).symm
  · rintro ⟨back, front, reversed, unlike⟩
    refine ⟨front.reverse, back.reverse, ?_, fun other member => ?_⟩
    · rw [← List.reverse_reverse fields, reversed]
      simp
    · simpa using (bne_iff_ne.mp (unlike other (List.mem_reverse.mp member))).symm

/-- Every field has its value. -/
def AreValues (depth : Nat) : List (Option String × Document) → List (String × Json) → Prop :=
  List.Forall₂ fun field pair => field.1 = some pair.1 ∧ toJson? depth field.2 = some pair.2

theorem areValues_of_fieldsToJson? (valued : fieldsToJson? depth fields = some pairs) :
    AreValues depth fields pairs := by
  induction fields generalizing pairs with
  | nil =>
      obtain rfl := Option.some.inj valued
      exact .nil
  | cons field rest inductionHypothesis =>
      obtain ⟨name, document⟩ := field
      rw [fieldsToJson?] at valued
      obtain ⟨known, rfl, named⟩ := Option.bind_eq_some_iff.mp valued
      obtain ⟨value, read, headed⟩ := Option.bind_eq_some_iff.mp named
      obtain ⟨others, followed, rfl⟩ := Option.map_eq_some_iff.mp headed
      exact .cons ⟨rfl, read⟩ (inductionHypothesis followed)

/-- What is found under a name is the value of what is written there. -/
theorem AreValues.lookup (values : AreValues depth fields pairs) (name : String) :
    pairs.lookup name = (fields.lookup (some name)).bind (toJson? depth) := by
  induction values with
  | nil => rfl
  | @cons field pair fields pairs same _ inductionHypothesis =>
      obtain ⟨known, document⟩ := field
      obtain ⟨key, value⟩ := pair
      obtain ⟨rfl, read⟩ := same
      rw [List.lookup_cons, List.lookup_cons, inductionHypothesis, Option.some_beq_some]
      cases name == key with
      | true => exact read.symm
      | false => rfl

/-- A field of an object is the value of the last one that is written under its name. -/
theorem get?_of_toJson? {value : Json} (valued : toJson? depth (.object fields) = some value)
    (name : String) :
    value.get? name = (fields.reverse.lookup (some name)).bind (toJson? (depth - 1)) := by
  rw [toJson?] at valued
  split at valued
  · cases valued
  · obtain ⟨pairs, read, rfl⟩ := Option.map_eq_some_iff.mp valued
    rw [Json.ofFields, Json.get?, Entries.get?_ofPairs]
    exact AreValues.lookup (List.forall₂_reverse_iff.mpr (areValues_of_fieldsToJson? read)) name

/-- Only a string is read as one. -/
theorem toJson?_eq_string_iff {document : Document} {text : String} :
    toJson? depth document = some (.string text) ↔ document = .string (some text) := by
  cases document with
  | null | bool => simp [toJson?]
  | number value => cases value <;> simp [toJson?]
  | string given => cases given <;> simp [toJson?]
  | array items =>
      rw [toJson?]
      split <;> simp
  | object fields =>
      rw [toJson?]
      split <;> simp [Json.ofFields]

/--
A text says something under a name: it is a value within the limit of nesting, an object at
its top level, and the last field of that name is this string.
-/
def Tells (text name said : String) : Prop :=
  ∃ fields, read? text = some (.object fields) ∧ (object fields).IsValue ∧
    IsLast fields name (.string (some said))

/-- A value has a field only if it is written as an object. -/
theorem exists_fields_of_get?
    {document : Document} {value found : Json} {name : String}
    (valued : toJson? depth document = some value) (gets : value.get? name = some found) :
    ∃ fields, document = .object fields := by
  cases document with
  | object fields => exact ⟨fields, rfl⟩
  | null | bool =>
      obtain rfl := Option.some.inj valued
      cases gets
  | number | string =>
      obtain ⟨_, _, rfl⟩ := Option.map_eq_some_iff.mp valued
      cases gets
  | array items =>
      rw [toJson?] at valued
      split at valued
      · cases valued
      · obtain ⟨_, _, rfl⟩ := Option.map_eq_some_iff.mp valued
        cases gets

/-- What is found in a string field of the value of a text is what the text says there. -/
theorem tells_iff {text name said : String} :
    Tells text name said ↔
      ∃ value, Json.read? text = some value ∧ value.get? name = some (.string said) := by
  constructor
  · rintro ⟨fields, read, isValue, isLast⟩
    obtain ⟨value, valued⟩ :=
      Option.isSome_iff_exists.mp ((isSome_read?_iff text).mpr ⟨_, read, isValue⟩)
    refine ⟨value, valued, ?_⟩
    rw [Json.read?, read, Option.bind_some] at valued
    rw [get?_of_toJson? valued, isLast_iff.mp isLast, Option.bind_some]
    exact toJson?_eq_string_iff.mpr rfl
  · rintro ⟨value, valued, gets⟩
    obtain ⟨document, read, isValue⟩ :=
      (isSome_read?_iff text).mp (Option.isSome_iff_exists.mpr ⟨value, valued⟩)
    rw [Json.read?, read, Option.bind_some] at valued
    obtain ⟨fields, rfl⟩ := exists_fields_of_get? valued gets
    rw [get?_of_toJson? valued] at gets
    obtain ⟨field, last, isString⟩ := Option.bind_eq_some_iff.mp gets
    obtain rfl := toJson?_eq_string_iff.mp isString
    exact ⟨fields, read, isValue, isLast_iff.mpr last⟩

/-- What is found as a string in a field is what the text says there. -/
theorem string?_get?_iff {text name said : String} :
    (∃ value, Json.read? text = some value ∧ (value.get? name).bind Json.string? = some said) ↔
      Tells text name said := by
  rw [tells_iff]
  refine exists_congr fun value => and_congr_right fun _ => ?_
  cases value.get? name with
  | none => simp
  | some found => cases found <;> simp [Json.string?]

end Document
end LifecycleOperator
