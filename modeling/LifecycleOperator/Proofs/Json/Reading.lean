import LifecycleOperator.Proofs.Json.Scanning

/-!
# Reading what is written

Every value that is written is read back as its tree.  The tree of a value differs from the
value in its numbers only: a number is what its text is read as.  While the tokens of a value
are put together, the arrays and objects around it wait on the stack as they are, so that a
value may stand wherever a value is awaited.
-/

namespace LifecycleOperator

namespace Json

mutual

/-- The document that the text of a value is read as. -/
def tree : Json → Document
  | .null => .null
  | .bool value => .bool value
  | .number value => .number value.reread
  | .string text => .string (some text)
  | .array items => .array (itemTrees items)
  | .object fields => .object (fieldTrees fields)

/-- The documents of the items of an array. -/
def itemTrees : List Json → List Document
  | [] => []
  | item :: rest => tree item :: itemTrees rest

/-- The documents of the fields of an object. -/
def fieldTrees : List (String × Json) → List (Option String × Document)
  | [] => []
  | (name, value) :: rest => (some name, tree value) :: fieldTrees rest

end

end Json

namespace Document
namespace Builder

/-- A value is awaited inside of these frames. -/
def Awaits (builder : Builder) (frames : List Frame) : Prop :=
  ∀ token, (start? frames token).isSome → builder.step? token = start? frames token

/-- A name is awaited inside of an object with these fields, the latest first. -/
def AwaitsName (builder : Builder) (fields : List (Option String × Document))
    (frames : List Frame) : Prop :=
  ∀ name, builder.step? (.string name) = some (.needColon fields name frames)

/-- Wherever a value is awaited, tokens are put together to this one. -/
def Builds (tokens : List JsonToken) (document : Document) : Prop :=
  ∀ builder frames, Awaits builder frames →
    tokens.foldlM step? builder = some (.complete document frames)

/-- Inside of an array, tokens are put together to the items that are left. -/
def BuildsItems (tokens : List JsonToken) (items : List Document) : Prop :=
  ∀ builder before frames, Awaits builder (.array before :: frames) →
    (tokens ++ [JsonToken.closeArray]).foldlM step? builder =
      some (.complete (.array (before.reverse ++ items)) frames)

/-- Inside of an object, tokens are put together to the fields that are left. -/
def BuildsFields (tokens : List JsonToken) (fields : List (Option String × Document)) : Prop :=
  ∀ builder before frames, AwaitsName builder before frames →
    (tokens ++ [JsonToken.closeObject]).foldlM step? builder =
      some (.complete (.object (before.reverse ++ fields)) frames)

theorem awaits_needValue (frames : List Frame) : Awaits (.needValue frames) frames :=
  fun _ _ => rfl

theorem awaits_needFirstItem (frames : List Frame) :
    Awaits (.needFirstItem frames) (.array [] :: frames) := by
  intro token starts
  cases token <;> first | rfl | cases starts

/-- The first token of several, and the state behind it. -/
theorem foldlM_step
    {builder next : Builder} {token : JsonToken} {tokens : List JsonToken}
    (steps : builder.step? token = some next) :
    (token :: tokens).foldlM step? builder = tokens.foldlM step? next := by
  rw [List.foldlM_cons, steps]
  rfl

/-- The tokens of a value in front of others. -/
theorem Builds.foldlM_append
    {builder : Builder} {tokens more : List JsonToken} {document : Document}
    {frames : List Frame}
    (builds : Builds tokens document) (awaits : Awaits builder frames) :
    (tokens ++ more).foldlM step? builder =
      more.foldlM step? (.complete document frames) := by
  rw [List.foldlM_append, builds builder frames awaits]
  rfl

namespace Builds

variable {tokens : List JsonToken} {document : Document} {items : List Document}
  {fields : List (Option String × Document)}

/-- A token that is a value. -/
theorem token {token : JsonToken}
    (isValue : ∀ frames, start? frames token = some (.complete document frames)) :
    Builds [token] document := by
  intro builder frames awaits
  have steps : builder.step? token = some (.complete document frames) := by
    rw [awaits token (by rw [isValue]; rfl), isValue]
  rw [foldlM_step steps]
  rfl

theorem emptyArray : Builds [.openArray, .closeArray] (.array []) := by
  intro builder frames awaits
  rw [foldlM_step (awaits .openArray rfl)]
  rfl

theorem array (builds : BuildsItems tokens items) :
    Builds (.openArray :: (tokens ++ [.closeArray])) (.array items) := by
  intro builder frames awaits
  rw [foldlM_step (awaits .openArray rfl)]
  exact builds _ [] frames (awaits_needFirstItem frames)

theorem emptyObject : Builds [.openObject, .closeObject] (.object []) := by
  intro builder frames awaits
  rw [foldlM_step (awaits .openObject rfl)]
  rfl

theorem object (builds : BuildsFields tokens fields) :
    Builds (.openObject :: (tokens ++ [.closeObject])) (.object fields) := by
  intro builder frames awaits
  rw [foldlM_step (awaits .openObject rfl)]
  exact builds _ [] frames fun _ => rfl

end Builds

namespace BuildsItems

variable {tokens more : List JsonToken} {document : Document} {items : List Document}

theorem last (builds : Builds tokens document) : BuildsItems tokens [document] := by
  intro builder before frames awaits
  rw [builds.foldlM_append awaits, foldlM_step rfl, List.reverse_cons]
  rfl

theorem cons (first : Builds tokens document) (others : BuildsItems more items) :
    BuildsItems (tokens ++ .comma :: more) (document :: items) := by
  intro builder before frames awaits
  rw [List.append_assoc, first.foldlM_append awaits, List.cons_append, foldlM_step rfl,
    others _ (document :: before) frames (awaits_needValue _)]
  simp

end BuildsItems

namespace BuildsFields

variable {tokens more : List JsonToken} {document : Document} {name : Option String}
  {fields : List (Option String × Document)}

theorem last (builds : Builds tokens document) :
    BuildsFields (.string name :: .colon :: tokens) [(name, document)] := by
  intro builder before frames awaits
  rw [List.cons_append, foldlM_step (awaits name), List.cons_append, foldlM_step rfl,
    builds.foldlM_append (awaits_needValue _), foldlM_step rfl, List.reverse_cons]
  rfl

theorem cons (first : Builds tokens document) (others : BuildsFields more fields) :
    BuildsFields (.string name :: .colon :: (tokens ++ .comma :: more))
      ((name, document) :: fields) := by
  intro builder before frames awaits
  rw [List.cons_append, foldlM_step (awaits name), List.cons_append, foldlM_step rfl,
    List.append_assoc, first.foldlM_append (awaits_needValue _), List.cons_append,
    foldlM_step rfl, others _ ((name, document) :: before) frames fun _ => rfl]
  simp

end BuildsFields

open Json

mutual

/-- The tokens of a value are put together to its tree. -/
theorem builds_tokens : (value : Json) → Builds value.tokens value.tree
  | .null | .bool _ | .number _ | .string _ => .token fun _ => rfl
  | .array [] => .emptyArray
  | .array (item :: rest) => .array (builds_itemTokens (item :: rest) (List.cons_ne_nil _ _))
  | .object [] => .emptyObject
  | .object (field :: rest) =>
      .object (builds_fieldTokens (field :: rest) (List.cons_ne_nil _ _))

/-- The tokens of items are put together to their trees. -/
theorem builds_itemTokens : (items : List Json) → items ≠ [] →
    BuildsItems (itemTokens items) (itemTrees items)
  | [], isNonempty => absurd rfl isNonempty
  | [item], _ => .last (builds_tokens item)
  | item :: next :: rest, _ =>
      .cons (builds_tokens item) (builds_itemTokens (next :: rest) (List.cons_ne_nil _ _))

/-- The tokens of fields are put together to their trees. -/
theorem builds_fieldTokens : (fields : List (String × Json)) → fields ≠ [] →
    BuildsFields (fieldTokens fields) (fieldTrees fields)
  | [], isNonempty => absurd rfl isNonempty
  | [(_, value)], _ => .last (builds_tokens value)
  | (_, value) :: next :: rest, _ =>
      .cons (builds_tokens value) (builds_fieldTokens (next :: rest) (List.cons_ne_nil _ _))

end

end Builder

/-- Every text that is written is read as the tree of its value. -/
theorem read?_text (value : Json) : read? value.text = some value.tree := by
  have scanned := JsonToken.Scanner.scan?_eq (JsonToken.Scanner.scans_characters value)
  have built := Builder.builds_tokens value (.needValue []) [] (Builder.awaits_needValue [])
  rw [read?, Json.text, String.toList_ofList, scanned, Option.bind_some, ofTokens?, built]

end Document
end LifecycleOperator
