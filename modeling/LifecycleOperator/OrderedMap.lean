/-!
# Maps from names, in the order of the names

An association list is used directly where it is part of a recursive type, and
as a map with its order as an invariant everywhere else.  Inserting keeps the
names ascending, so that a map has one representation only.
-/

namespace LifecycleOperator

/-- An association list with names. -/
abbrev Entries (α : Type u) := List (String × α)

namespace Entries

variable {α : Type u}

def get? : Entries α → String → Option α
  | [], _ => none
  | (key, value) :: rest, name =>
      if key = name then some value else get? rest name

/-- Set the value of a name, keeping the order of the names. -/
def insert : Entries α → String → α → Entries α
  | [], name, value => [(name, value)]
  | (key, former) :: rest, name, value =>
      if name = key then (name, value) :: rest
      else if name < key then (name, value) :: (key, former) :: rest
      else (key, former) :: insert rest name value

/-- The entries of a list of pairs; a repeated name keeps its last value. -/
def ofPairs (pairs : List (String × α)) : Entries α :=
  pairs.foldl (fun entries pair => insert entries pair.1 pair.2) []

/-- Names ascend, so that each occurs once. -/
def Ordered (entries : Entries α) : Prop :=
  entries.Pairwise fun left right => left.1 < right.1

@[simp] theorem get?_nil (name : String) : get? ([] : Entries α) name = none := rfl

/-- An entry is found under its name; other names are looked for behind it. -/
@[simp] theorem get?_cons
    (key : String) (value : α) (rest : Entries α) (name : String) :
    get? ((key, value) :: rest) name =
      if key = name then some value else get? rest name := rfl

theorem get?_insert_self (entries : Entries α) (name : String) (value : α) :
    get? (insert entries name value) name = some value := by
  induction entries with
  | nil => simp [insert]
  | cons entry rest inductionStep =>
      obtain ⟨key, former⟩ := entry
      unfold insert
      split
      · simp
      · split
        · simp
        · rename_i different _
          have notSame : key ≠ name := fun same => different same.symm
          simp [notSame, inductionStep]

theorem get?_insert_of_ne
    (entries : Entries α) {name other : String} (value : α)
    (different : name ≠ other) :
    get? (insert entries name value) other = get? entries other := by
  induction entries with
  | nil => simp [insert, different]
  | cons entry rest inductionStep =>
      obtain ⟨key, former⟩ := entry
      unfold insert
      split
      · rename_i same
        subst same
        simp [different]
      · split
        · simp [different]
        · simp [inductionStep]

theorem get?_foldl_insert
    (entries : Entries α) (pairs : List (String × α)) (name : String) :
    get? (pairs.foldl (fun entries pair => insert entries pair.1 pair.2) entries) name =
      (pairs.reverse.lookup name).or (get? entries name) := by
  induction pairs generalizing entries with
  | nil => rfl
  | cons pair rest inductionHypothesis =>
      obtain ⟨key, value⟩ := pair
      rw [List.foldl_cons, inductionHypothesis, List.reverse_cons, List.lookup_append,
        Option.or_assoc]
      congr 1
      by_cases same : name = key
      · subst same
        simp [get?_insert_self]
      · have notSame : (name == key) = false := by simpa using same
        rw [get?_insert_of_ne entries value (Ne.symm same), List.lookup_cons, notSame]
        rfl

/-- What is found under a name is the last value that it was given. -/
theorem get?_ofPairs (pairs : List (String × α)) (name : String) :
    get? (ofPairs pairs) name = pairs.reverse.lookup name := by
  rw [ofPairs, get?_foldl_insert, get?_nil, Option.or_none]

/-- A name of the result is the new one or a former one. -/
theorem mem_insert
    {entries : Entries α} {name : String} {value : α} {entry : String × α}
    (member : entry ∈ insert entries name value) :
    entry = (name, value) ∨ entry ∈ entries := by
  induction entries with
  | nil => simpa [insert] using member
  | cons head rest inductionStep =>
      obtain ⟨key, former⟩ := head
      unfold insert at member
      split at member
      · rcases List.mem_cons.mp member with same | later
        · exact .inl same
        · exact .inr (List.mem_cons_of_mem _ later)
      · split at member
        · rcases List.mem_cons.mp member with same | later
          · exact .inl same
          · exact .inr later
        · rcases List.mem_cons.mp member with same | later
          · exact .inr (same ▸ List.mem_cons_self)
          · rcases inductionStep later with same | former
            · exact .inl same
            · exact .inr (List.mem_cons_of_mem _ former)

theorem ordered_insert
    {entries : Entries α} (ordered : Ordered entries) (name : String) (value : α) :
    Ordered (insert entries name value) := by
  induction entries with
  | nil => simp [insert, Ordered]
  | cons head rest inductionStep =>
      obtain ⟨key, former⟩ := head
      obtain ⟨below, restOrdered⟩ := List.pairwise_cons.mp ordered
      unfold insert
      split
      · rename_i same
        subst same
        exact List.pairwise_cons.mpr ⟨below, restOrdered⟩
      · split
        · rename_i before
          refine List.pairwise_cons.mpr ⟨fun entry member => ?_, ordered⟩
          rcases List.mem_cons.mp member with same | later
          · exact same ▸ before
          · exact String.lt_trans before (below entry later)
        · rename_i different notBefore
          refine List.pairwise_cons.mpr
            ⟨fun entry member => ?_, inductionStep restOrdered⟩
          rcases mem_insert member with same | later
          · subst same
            exact Std.lt_of_le_of_ne (String.not_lt.mp notBefore) (Ne.symm different)
          · exact below entry later

/-- Entries that were inserted one by one are in order. -/
theorem ordered_ofPairs (pairs : List (String × α)) : Ordered (ofPairs pairs) := by
  suffices general : ∀ entries : Entries α, Ordered entries →
      Ordered (pairs.foldl (fun entries pair => insert entries pair.1 pair.2) entries) from
    general [] List.Pairwise.nil
  induction pairs with
  | nil => exact fun _ ordered => ordered
  | cons pair rest inductionStep =>
      exact fun entries ordered =>
        inductionStep _ (ordered_insert ordered pair.1 pair.2)

end Entries

/-- A map from names. -/
structure OrderedMap (α : Type u) where
  entries : Entries α
  ordered : Entries.Ordered entries

namespace OrderedMap

variable {α : Type u}

instance [DecidableEq α] : DecidableEq (OrderedMap α) := fun left right =>
  if same : left.entries = right.entries then
    isTrue (by cases left; cases right; cases same; rfl)
  else isFalse fun equal => same (congrArg entries equal)

/-- Maps with the same entries are the same. -/
@[ext] theorem ext {left right : OrderedMap α} (same : left.entries = right.entries) :
    left = right := by
  cases left; cases right; cases same; rfl

def empty : OrderedMap α := ⟨[], List.Pairwise.nil⟩

instance : Inhabited (OrderedMap α) := ⟨empty⟩

def get? (map : OrderedMap α) (name : String) : Option α :=
  Entries.get? map.entries name

def insert (map : OrderedMap α) (name : String) (value : α) : OrderedMap α :=
  ⟨Entries.insert map.entries name value,
    Entries.ordered_insert map.ordered name value⟩

/-- The map of a list of pairs; a repeated name keeps its last value. -/
def ofPairs (pairs : List (String × α)) : OrderedMap α :=
  ⟨Entries.ofPairs pairs, Entries.ordered_ofPairs pairs⟩

theorem get?_insert_self (map : OrderedMap α) (name : String) (value : α) :
    (map.insert name value).get? name = some value :=
  Entries.get?_insert_self map.entries name value

theorem get?_insert_of_ne
    (map : OrderedMap α) {name other : String} (value : α) (different : name ≠ other) :
    (map.insert name value).get? other = map.get? other :=
  Entries.get?_insert_of_ne map.entries value different

end OrderedMap

end LifecycleOperator
