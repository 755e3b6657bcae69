import LifecycleOperator.Template.Registry
import Mathlib.Data.List.Forall2

/-!
# What is rendered

A text without characters makes no difference to what a template is rendered to: a template
that was read from a file agrees with one that was given by its parts if they are equal but for
such texts.  What a field, a choice and a loop are rendered to is stated once for each of them,
and for a loop from what its body is rendered to for a single item.
-/

namespace LifecycleOperator
namespace Template

variable {data : Json} {scopes : List Scope} {name : String}

/-! ## Templates that agree -/

/-- Whether a part is a text without characters. -/
def Part.isIdle : Part → Bool
  | .text content => content.isEmpty
  | _ => false

mutual

/-- Two templates agree if they are equal but for texts without characters in the first one. -/
def agree : List Part → List Part → Bool
  | [], others => others.isEmpty
  | part :: rest, others =>
      if part.isIdle then agree rest others
      else
        match others with
        | other :: others => agreePart part other && agree rest others
        | [] => false

/-- What blocks are applied to is compared only if it is a single path. -/
def agreePart : Part → Part → Bool
  | .text content, .text other => content = other
  | .value path, .value other => path = other
  | .block helper [.path path] body none, .block otherHelper [.path other] otherBody none =>
      helper = otherHelper && path = other && agree body otherBody
  | _, _ => false

end

/-- What a list of parts is rendered to depends on what its parts are rendered to. -/
theorem renderParts_cons_congr {part other : Part} {rest others : List Part}
    (samePart : renderPart data scopes part = renderPart data scopes other)
    (sameRest : renderParts data scopes rest = renderParts data scopes others) :
    renderParts data scopes (part :: rest) = renderParts data scopes (other :: others) := by
  rw [renderParts, renderParts, samePart, sameRest]

/-- What a block is rendered to depends on what its body is rendered to. -/
theorem renderPart_block_congr {helper : String} {operands : List Operand}
    {body other : List Part}
    (same : ∀ scopes, renderParts data scopes body = renderParts data scopes other) :
    renderPart data scopes (.block helper operands body none) =
      renderPart data scopes (.block helper operands other none) := by
  unfold renderPart
  simp only [same]

theorem renderParts_idle_cons {part : Part} {rest : List Part} (idle : part.isIdle = true) :
    renderParts data scopes (part :: rest) = renderParts data scopes rest := by
  cases part with
  | text content =>
      rw [renderParts, renderPart, String.isEmpty_iff.mp idle]
      cases renderParts data scopes rest with
      | error problem => rfl
      | ok others => exact congrArg Except.ok String.empty_append
  | value | call | block => cases idle

mutual

/-- Templates that agree are rendered to the same. -/
theorem renderParts_of_agree (data : Json) : ∀ (parts others : List Part) (scopes : List Scope),
    agree parts others = true →
      renderParts data scopes parts = renderParts data scopes others
  | [], others, scopes, agreed => by
      obtain rfl := List.isEmpty_iff.mp agreed
      rfl
  | part :: rest, others, scopes, agreed => by
      unfold agree at agreed
      split at agreed
      · rename_i idle
        rw [renderParts_idle_cons idle]
        exact renderParts_of_agree data rest others scopes agreed
      · cases others with
        | nil => cases agreed
        | cons other others =>
            rw [Bool.and_eq_true] at agreed
            exact renderParts_cons_congr
              (renderPart_of_agreePart data part other scopes agreed.1)
              (renderParts_of_agree data rest others scopes agreed.2)

theorem renderPart_of_agreePart (data : Json) : ∀ (part other : Part) (scopes : List Scope),
    agreePart part other = true →
      renderPart data scopes part = renderPart data scopes other
  | part, other, scopes, agreed => by
      unfold agreePart at agreed
      split at agreed
      · rw [of_decide_eq_true agreed]
      · rw [of_decide_eq_true agreed]
      · rename_i body _ _ otherBody
        simp only [Bool.and_eq_true, decide_eq_true_eq] at agreed
        obtain ⟨⟨rfl, rfl⟩, agreed⟩ := agreed
        exact renderPart_block_congr fun scopes =>
          renderParts_of_agree data body otherBody scopes agreed
      · cases agreed

end

/-! ## Parts -/

/-- A list of parts is rendered part by part. -/
theorem renderParts_of_forall₂ {parts : List Part} {texts : List String}
    (rendered : List.Forall₂ (fun part text => renderPart data scopes part = .ok text)
      parts texts) :
    renderParts data scopes parts = .ok (String.join texts) := by
  induction rendered with
  | nil => rw [renderParts, String.join_nil]
  | cons first _ others =>
      rw [renderParts, first, others, String.join_cons]
      rfl

/-- A name is looked up in the item of the innermost loop, if there is a loop. -/
theorem resolve_field (item : Json)
    (innermost : (scopes.map Scope.item ++ [data]).head? = some item) :
    (Path.field name).resolve data scopes = step (some item) name := by
  have first : (scopes.map Scope.item ++ [data])[0]? = some item := by
    rw [← List.head?_eq_getElem?, innermost]
  simp only [Path.resolve, Path.field, first]
  change (step (some item) name >>= Except.ok) = step (some item) name
  cases step (some item) name <;> rfl

theorem renderPart_field {value : Json} (noHelper : helperNames.contains name = false)
    (found : (Path.field name).resolve data scopes = .ok (some value)) :
    renderPart data scopes (.field name) = .ok (display value) := by
  unfold Part.field renderPart
  rw [found, show (Path.field name).written = name from rfl, noHelper]
  rfl

theorem renderPart_whenField {value : Json} {body : List Part}
    (found : (Path.field name).resolve data scopes = .ok (some value)) :
    renderPart data scopes (.whenField name body) =
      if isSet value then renderParts data scopes body else .ok "" := by
  unfold Part.whenField renderPart
  simp only [Operand.resolve, found]
  rfl

/-- Scopes are rendered one by one, each of them to the text of the entry that its item is. -/
theorem mapM_scopes {Entry : Type} {itemOf : Entry → Json} {textOf : Entry → String}
    {render : Scope → Except Problem String} {entries : List Entry}
    (rendered : ∀ entry bindings, render ⟨itemOf entry, bindings⟩ = .ok (textOf entry))
    {scopes : List Scope} (items : scopes.map Scope.item = entries.map itemOf) :
    scopes.mapM render = .ok (entries.map textOf) := by
  induction entries generalizing scopes with
  | nil =>
      obtain rfl := List.map_eq_nil_iff.mp items
      rfl
  | cons entry rest inductionHypothesis =>
      obtain ⟨⟨_, bindings⟩, others, rfl, rfl, itemsRest⟩ := List.map_eq_cons_iff.mp items
      rw [List.mapM_cons, rendered entry bindings, inductionHypothesis itemsRest]
      rfl

theorem map_item_itemScopes (items : List Json) :
    (itemScopes items).map Scope.item = items := by
  rw [itemScopes, List.map_map]
  exact List.zipIdx_map_fst 0 items

/-- A loop is rendered entry by entry, each of them to what its body is rendered to for it. -/
theorem renderPart_eachField {Entry : Type} {itemOf : Entry → Json} {textOf : Entry → String}
    {entries : List Entry} {body : List Part}
    (found : (Path.field name).resolve data scopes = .ok (some (.array (entries.map itemOf))))
    (rendered : ∀ entry bindings,
      renderParts data (⟨itemOf entry, bindings⟩ :: scopes) body = .ok (textOf entry)) :
    renderPart data scopes (.eachField name body) = .ok (String.join (entries.map textOf)) := by
  have texts : (itemScopes (entries.map itemOf)).mapM
      (fun scope => renderParts data (scope :: scopes) body) = .ok (entries.map textOf) :=
    mapM_scopes rendered (map_item_itemScopes _)
  unfold Part.eachField renderPart
  simp only [Operand.resolve, found, bind, Except.bind, iteration?]
  cases iterated : itemScopes (entries.map itemOf) with
  | nil =>
      rw [iterated] at texts
      rw [← Except.ok.inj texts]
      rfl
  | cons scope rest =>
      rw [iterated] at texts
      simp only
      rw [texts]
      rfl

end Template
end LifecycleOperator
