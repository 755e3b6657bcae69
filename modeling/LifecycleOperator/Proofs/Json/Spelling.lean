import LifecycleOperator.Json.Decode
import LifecycleOperator.Proofs.Json.Reading
import Mathlib.Data.List.Forall2
import Mathlib.Data.List.Nodup

/-!
# Spellings of structures and maps

A structure may be spelled in many ways: its members stand in any order, members that it
does not know stand among them, and a member whose value is the declared default may be
left out.  All of this holds again for the structures inside of it.  A map may list its
entries in any order.  Whoever decodes a spelling finds for every field the value that was
spelled, or nothing where the default was left out.
-/

namespace LifecycleOperator

/-! ## Entries -/

namespace Entries

variable {α : Type}

/-- An entry whose name occurs once is found. -/
theorem get?_of_mem
    {entries : Entries α} (distinct : (entries.map Prod.fst).Nodup)
    {name : String} {value : α} (member : (name, value) ∈ entries) :
    get? entries name = some value := by
  induction entries with
  | nil => cases member
  | cons entry rest inductionHypothesis =>
      obtain ⟨key, former⟩ := entry
      rw [List.map_cons, List.nodup_cons] at distinct
      rcases List.mem_cons.mp member with same | later
      · obtain ⟨rfl, rfl⟩ := Prod.mk.inj same
        simp
      · have different : key ≠ name := by
          rintro rfl
          exact distinct.1 (List.mem_map.mpr ⟨_, later, rfl⟩)
        rw [get?_cons, if_neg different]
        exact inductionHypothesis distinct.2 later

/-- Just the names that occur are found. -/
theorem isSome_get?_iff {entries : Entries α} {name : String} :
    (get? entries name).isSome ↔ name ∈ entries.map Prod.fst := by
  induction entries with
  | nil => simp
  | cons entry rest inductionHypothesis =>
      obtain ⟨key, value⟩ := entry
      rw [get?_cons, List.map_cons, List.mem_cons]
      split
      · rename_i same
        simp [same]
      · rename_i different
        simp [inductionHypothesis, Ne.symm different]

/-- Inserting a new name adds an entry. -/
theorem insert_perm
    {entries : Entries α} {name : String} (value : α)
    (isNew : name ∉ entries.map Prod.fst) :
    (insert entries name value).Perm ((name, value) :: entries) := by
  induction entries with
  | nil => exact .refl _
  | cons entry rest inductionHypothesis =>
      obtain ⟨key, former⟩ := entry
      rw [List.map_cons, List.mem_cons, not_or] at isNew
      unfold insert
      rw [if_neg isNew.1]
      split
      · exact .refl _
      · exact ((inductionHypothesis isNew.2).cons _).trans (.swap _ _ _)

/-- Entries with different names are all kept. -/
theorem ofPairs_perm
    {pairs : List (String × α)} (distinct : (pairs.map Prod.fst).Nodup) :
    (ofPairs pairs).Perm pairs := by
  suffices general : ∀ entries : Entries α, ((pairs ++ entries).map Prod.fst).Nodup →
      (pairs.foldl (fun entries pair => insert entries pair.1 pair.2) entries).Perm
        (pairs ++ entries) by
    simpa [ofPairs] using general [] (by simpa using distinct)
  clear distinct
  induction pairs with
  | nil => exact fun entries _ => .refl _
  | cons pair rest inductionHypothesis =>
      intro entries distinct
      have inserts : (insert entries pair.1 pair.2).Perm (pair :: entries) := by
        rw [List.cons_append, List.map_cons, List.nodup_cons, List.map_append,
          List.mem_append, not_or] at distinct
        exact insert_perm pair.2 distinct.1.2
      have moved : (rest ++ insert entries pair.1 pair.2).Perm (pair :: rest ++ entries) :=
        (inserts.append_left rest).trans List.perm_middle
      exact (inductionHypothesis _ ((moved.map Prod.fst).nodup_iff.mpr distinct)).trans moved

/-- Names in order are all different. -/
theorem Ordered.distinct {entries : Entries α} (ordered : Ordered entries) :
    (entries.map Prod.fst).Nodup := by
  rw [List.nodup_iff_pairwise_ne, List.pairwise_map]
  exact ordered.imp fun before => Std.ne_of_lt before

/-- Entries in order are determined by what they are. -/
theorem eq_of_perm
    {left right : Entries α} (orderedLeft : Ordered left) (orderedRight : Ordered right)
    (perm : left.Perm right) : left = right :=
  perm.eq_of_pairwise (fun _ _ _ _ before after => (String.lt_asymm before after).elim)
    orderedLeft orderedRight

end Entries

/-- A map is read from its entries in any order. -/
theorem OrderedMap.ofPairs_of_perm
    {α : Type} {map : OrderedMap α} {pairs : List (String × α)}
    (perm : pairs.Perm map.entries) : OrderedMap.ofPairs pairs = map := by
  have distinct : (pairs.map Prod.fst).Nodup :=
    (perm.map Prod.fst).nodup_iff.mpr map.ordered.distinct
  ext1
  exact Entries.eq_of_perm (Entries.ordered_ofPairs pairs) map.ordered
    ((Entries.ofPairs_perm distinct).trans perm)

/-! ## Members -/

namespace Decoder

/-- Members that are known are all found, if none of them is repeated. -/
theorem knownMembers_eq
    {names : List String} {members : List (String × Json)}
    (distinct : ((members.filter fun member => names.contains member.1).map Prod.fst).Nodup) :
    knownMembers names (Json.fieldTrees members) =
      some ((members.filter fun member => names.contains member.1).map fun member =>
        (member.1, member.2.tree)) := by
  induction members with
  | nil => rfl
  | cons member rest inductionHypothesis =>
      obtain ⟨name, value⟩ := member
      rw [Json.fieldTrees, knownMembers]
      cases known : names.contains name with
      | false =>
          simp only [List.filter_cons, known, Bool.false_eq_true, if_false] at distinct ⊢
          rw [inductionHypothesis distinct]
          rfl
      | true =>
          simp only [List.filter_cons, known, if_true, List.map_cons, List.nodup_cons]
            at distinct ⊢
          rw [inductionHypothesis distinct.2, Option.bind_some, if_neg]
          rw [Entries.isSome_get?_iff, List.map_map]
          exact distinct.1

/-- What is decoded is handed on. -/
theorem bind_eq
    {α β : Type} {decoded : Option α} {value : α} {next : α → Option β}
    (isDecoded : decoded = some value) : (decoded >>= next) = next value := by
  rw [isDecoded]
  rfl

end Decoder

/-! ## Structures -/

/-- A field of a structure on the wire. -/
structure WireField where
  name : String
  /-- The value of the field is the default that is declared for it. -/
  MayBeLeftOut : Prop
  /-- A value is a way to write the value of the field. -/
  Spells : Json → Prop

namespace WireField

/-- A text that is empty by default. -/
def text (name value : String) : WireField := ⟨name, value = "", (· = .string value)⟩

/-- A flag that is false by default. -/
def flag (name : String) (value : Bool) : WireField := ⟨name, value = false, (· = .bool value)⟩

/-- A field that is always written. -/
def always (name : String) (spells : Json → Prop) : WireField := ⟨name, False, spells⟩

/-- Members for the fields of a structure; those with default values may be left out. -/
inductive Written : List WireField → List (String × Json) → Prop
  | nil : Written [] []
  | kept {field : WireField} {fields : List WireField} {value : Json}
      {members : List (String × Json)}
      (spells : field.Spells value) (others : Written fields members) :
      Written (field :: fields) ((field.name, value) :: members)
  | leftOut {field : WireField} {fields : List WireField} {members : List (String × Json)}
      (mayBeLeftOut : field.MayBeLeftOut) (others : Written fields members) :
      Written (field :: fields) members

/-- An object spells a structure: members for its fields and others, in any order. -/
def SpelledBy (fields : List WireField) (json : Json) : Prop :=
  ∃ written unknown members, Written fields written ∧
    (∀ member ∈ unknown, member.1 ∉ fields.map WireField.name) ∧
    members.Perm (written ++ unknown) ∧ json = .object members

/-- What was spelled for a field is found, or it was left out. -/
inductive Found (members : Entries Document) (field : WireField) : Prop
  | written (value : Json) (spells : field.Spells value)
      (isFound : Entries.get? members field.name = some value.tree)
  | leftOut (mayBeLeftOut : field.MayBeLeftOut)
      (notFound : Entries.get? members field.name = none)

namespace Written

variable {fields : List WireField} {members : List (String × Json)}

/-- Members are written in the order of the fields. -/
theorem names_sublist (written : Written fields members) :
    (members.map Prod.fst).Sublist (fields.map WireField.name) := by
  induction written with
  | nil => exact .refl _
  | kept spells others inductionHypothesis => exact inductionHypothesis.cons_cons _
  | leftOut mayBeLeftOut others inductionHypothesis => exact inductionHypothesis.cons _

/-- Every field is written in one way, or left out. -/
theorem cases_of_mem
    (distinct : (fields.map WireField.name).Nodup)
    (written : Written fields members)
    {field : WireField} (member : field ∈ fields) :
    (∃ value, field.Spells value ∧ (field.name, value) ∈ members) ∨
      field.MayBeLeftOut ∧ field.name ∉ members.map Prod.fst := by
  induction written with
  | nil => cases member
  | kept spells others inductionHypothesis =>
      rw [List.map_cons, List.nodup_cons] at distinct
      rcases List.mem_cons.mp member with rfl | member
      · exact .inl ⟨_, spells, List.mem_cons_self⟩
      · rcases inductionHypothesis distinct.2 member with
          ⟨value, spells, isMember⟩ | ⟨mayBeLeftOut, absent⟩
        · exact .inl ⟨value, spells, List.mem_cons_of_mem _ isMember⟩
        · refine .inr ⟨mayBeLeftOut, List.mem_cons.not.mpr (not_or.mpr ⟨?_, absent⟩)⟩
          exact fun same => distinct.1 (List.mem_map.mpr ⟨_, member, same⟩)
  | leftOut mayBeLeftOut others inductionHypothesis =>
      rw [List.map_cons, List.nodup_cons] at distinct
      rcases List.mem_cons.mp member with rfl | member
      · refine .inr ⟨mayBeLeftOut, fun isMember => ?_⟩
        exact distinct.1 (others.names_sublist.subset isMember)
      · exact inductionHypothesis distinct.2 member

/-- The members that are known, among all members in any order, are those that are written. -/
theorem perm_filter
    {unknown all : List (String × Json)}
    (written : Written fields members)
    (areUnknown : ∀ member ∈ unknown, member.1 ∉ fields.map WireField.name)
    (perm : all.Perm (members ++ unknown)) :
    (all.filter fun member => (fields.map WireField.name).contains member.1).Perm members := by
  have kept : members.filter (fun member =>
      (fields.map WireField.name).contains member.1) = members :=
    List.filter_eq_self.mpr fun member isMember => List.contains_iff_mem.mpr
      (written.names_sublist.subset (List.mem_map_of_mem isMember))
  have dropped : unknown.filter (fun member =>
      (fields.map WireField.name).contains member.1) = [] :=
    List.filter_eq_nil_iff.mpr fun member isMember isKnown =>
      areUnknown member isMember (List.contains_iff_mem.mp isKnown)
  have filtered := perm.filter fun member => (fields.map WireField.name).contains member.1
  rwa [List.filter_append, kept, dropped, List.append_nil] at filtered

end Written

/-- In an object that spells a structure every field is found. -/
theorem SpelledBy.found
    {fields : List WireField} {json : Json}
    (spelled : SpelledBy fields json)
    (names : List String)
    (isNames : fields.map WireField.name = names)
    (distinct : names.Nodup) :
    ∃ members, Decoder.members names json.tree = some members ∧
      ∀ field ∈ fields, Found members field := by
  subst isNames
  obtain ⟨written, unknown, members, isWritten, areUnknown, perm, rfl⟩ := spelled
  let known := members.filter fun member => (fields.map WireField.name).contains member.1
  have knownPerm : known.Perm written := isWritten.perm_filter areUnknown perm
  have distinctKnown : (known.map Prod.fst).Nodup :=
    (knownPerm.map Prod.fst).nodup_iff.mpr (distinct.sublist isWritten.names_sublist)
  let found : Entries Document := known.map fun member => (member.1, member.2.tree)
  have names : found.map Prod.fst = known.map Prod.fst := List.map_map
  refine ⟨found, Decoder.knownMembers_eq distinctKnown, ?_⟩
  intro field member
  rcases isWritten.cases_of_mem distinct member with
    ⟨value, spells, isMember⟩ | ⟨mayBeLeftOut, absent⟩
  · refine .written value spells (Entries.get?_of_mem (names ▸ distinctKnown) ?_)
    exact List.mem_map.mpr ⟨_, knownPerm.mem_iff.mpr isMember, rfl⟩
  · refine .leftOut mayBeLeftOut (Option.not_isSome_iff_eq_none.mp ?_)
    rw [Entries.isSome_get?_iff, names, (knownPerm.map Prod.fst).mem_iff]
    exact absent

namespace Found

variable {α : Type} {decode : Decoder α} {value : α} {members : Entries Document}
  {field : WireField} {name : String}

/-- A field with a default is read. -/
theorem defaulted
    {default : α}
    (found : Found members field)
    (reads : ∀ json, field.Spells json → decode json.tree = some value)
    (isDefault : field.MayBeLeftOut → value = default) :
    Decoder.defaulted decode default members field.name = some value := by
  cases found with
  | written json spells isFound =>
      rw [Decoder.defaulted, isFound]
      exact reads json spells
  | leftOut mayBeLeftOut notFound =>
      rw [Decoder.defaulted, notFound, isDefault mayBeLeftOut]

/-- A text is read. -/
theorem text {text : String} (found : Found members (.text name text)) :
    Decoder.defaulted .string "" members name = some text :=
  found.defaulted (fun _ spells => spells ▸ rfl) id

/-- A flag is read. -/
theorem flag {flag : Bool} (found : Found members (.flag name flag)) :
    Decoder.defaulted .bool false members name = some flag :=
  found.defaulted (fun _ spells => spells ▸ rfl) id

/-- A field that is always written is read. -/
theorem always
    {spells : Json → Prop}
    (found : Found members (.always name spells))
    (reads : ∀ json, spells json → decode json.tree = some value) :
    Decoder.required decode members name = some value := by
  cases found with
  | written json spells isFound =>
      rw [Decoder.required]
      change Entries.get? members name = _ at isFound
      rw [isFound]
      exact reads json spells
  | leftOut mayBeLeftOut notFound => exact mayBeLeftOut.elim

/-- A text that is always written is read. -/
theorem alwaysText {text : String} (found : Found members (.always name (· = .string text))) :
    Decoder.required .string members name = some text :=
  found.always fun _ spells => spells ▸ rfl

end Found

/-- An object with a member for every field spells the structure. -/
theorem spelledBy_ofFields
    {fields : List WireField} {members : List (String × Json)}
    (names : List String)
    (isNames : fields.map WireField.name = names)
    (distinct : names.Nodup)
    (spell : List.Forall₂ (fun field member => member.1 = field.name ∧ field.Spells member.2)
      fields members) :
    SpelledBy fields (Json.ofFields members) := by
  subst isNames
  have written : Written fields members := by
    clear distinct
    induction spell with
    | nil => exact .nil
    | @cons field member fields members spells others inductionHypothesis =>
        obtain ⟨name, value⟩ := member
        obtain ⟨rfl, spells⟩ := spells
        exact .kept spells inductionHypothesis
  have distinctMembers := distinct.sublist written.names_sublist
  refine ⟨members, [], _, written, by simp, ?_, rfl⟩
  rw [List.append_nil]
  exact Entries.ofPairs_perm distinctMembers

end WireField

/-! ## Maps -/

/-- An object spells a map: a member for every entry, in any order. -/
def SpellsMap {α : Type} (spells : α → Json → Prop) (map : OrderedMap α) (json : Json) : Prop :=
  ∃ entries members,
    List.Forall₂ (fun (entry : String × α) (member : String × Json) =>
      member.1 = entry.1 ∧ spells entry.2 member.2) entries members ∧
    entries.Perm map.entries ∧ json = .object members

namespace SpellsMap

variable {α : Type} {spells : α → Json → Prop} {decode : Decoder α} {map : OrderedMap α}
  {json : Json}

/-- The entries of a map are read, each under its name. -/
theorem pairs_eq
    (reads : ∀ value json, spells value json → decode json.tree = some value)
    {entries : List (String × α)} {members : List (String × Json)}
    (spell : List.Forall₂ (fun entry member => member.1 = entry.1 ∧ spells entry.2 member.2)
      entries members) :
    Decoder.pairs decode (Json.fieldTrees members) = some entries := by
  induction spell with
  | nil => rfl
  | @cons entry member entries members first others inductionHypothesis =>
      obtain ⟨name, value⟩ := member
      obtain ⟨rfl, isSpelled⟩ := first
      rw [Json.fieldTrees, Decoder.pairs, reads entry.2 value isSpelled, inductionHypothesis]
      rfl

/-- A map is read from each of its spellings. -/
theorem map_eq
    (reads : ∀ value json, spells value json → decode json.tree = some value)
    (spelled : SpellsMap spells map json) :
    Decoder.map decode json.tree = some map := by
  obtain ⟨entries, members, spell, perm, rfl⟩ := spelled
  rw [Json.tree, Decoder.map, pairs_eq reads spell, Option.map_some,
    OrderedMap.ofPairs_of_perm perm]

/-- A map that is written entry by entry is spelled. -/
theorem of_write
    {write : α → Json} (writes : ∀ value, spells value (write value)) (map : OrderedMap α) :
    SpellsMap spells map (.object (map.entries.map fun entry => (entry.1, write entry.2))) := by
  refine ⟨map.entries, _, ?_, .refl _, rfl⟩
  rw [List.forall₂_map_right_iff, List.forall₂_same]
  exact fun entry _ => ⟨rfl, writes entry.2⟩

end SpellsMap

end LifecycleOperator
