import Formwork.Form.Decode

/-!
Rendered forms: what the component that shows a form works from. A rendered field names its
component and gathers what the component shows.
-/
namespace Formwork
open Formwork.Idl

structure RenderedField where
  id : String
  component : String
  props : List (String × Value) := []
  rules : List Rule := []
  visibleWhen : Option String := none
  /-- The property that holds the value, where it is not the usual one. -/
  valueProp : Option String := none

structure RenderedForm where
  id : String
  version : String
  fields : List RenderedField := []

/-- The label of a rendered field: its label property, or its id when that is empty. -/
def RenderedField.label (f : RenderedField) : Value :=
  let label := Value.get f.props "label"
  if label.truth then label else .text f.id

def RenderedForm.field? (f : RenderedForm) (id : String) : Option RenderedField :=
  f.fields.find? (·.id == id)

/-! ### From forms -/

/-- The components that are switched on and off. -/
def checkedComponents : List String := ["checkbox", "switch"]

namespace FormField

/-- What the component of a field shows. -/
def props (f : FormField) : List (String × Value) :=
  [("label", .text f.label), ("options", .list ((f.options.getD []).map FormOption.toValue))] ++
  Nulls.omit.member "itemType" (f.itemType.map .text) ++
  Nulls.omit.member "objectFields" (FormField.childValues .omit f.children)

/-- The rules of a field, led by a rule for its flag where no rule says that it is required. -/
def renderedRules (f : FormField) : List Rule :=
  if f.required && !f.has "required" then { type := "required" } :: f.rules else f.rules

def render (f : FormField) : RenderedField where
  id := f.key
  component := f.kind
  props := f.props
  rules := f.renderedRules
  visibleWhen := f.visibility.filter (!·.isEmpty)
  valueProp := if checkedComponents.contains f.kind then some "checked" else none

end FormField

def Form.render (f : Form) : RenderedForm where
  id := f.name
  version := f.version
  fields := f.fields.map FormField.render

/-! ### The shape on the wire -/

open Value

def RenderedField.toValue (f : RenderedField) : Value :=
  .object <|
    [("id", .text f.id), ("componentType", .text f.component),
      ("props", .object (storedMembers f.props)),
      ("rules", .list (f.rules.map (Rule.toValue .omit)))] ++
    Nulls.omit.member "visibleWhen" (f.visibleWhen.map .text) ++
    Nulls.omit.member "valuePropName" (f.valueProp.map .text)

def RenderedForm.toValue (f : RenderedForm) : Value :=
  .object [("formId", .text f.id), ("version", .text f.version),
    ("fields", .list (f.fields.map RenderedField.toValue))]

def RenderedField.decode? (v : Value) : Option RenderedField := do
  let ms ← v.toObject?
  pure {
    id := ← needed ms ["id"] toText?
    component := ← needed ms ["componentType", "component_type"] toText?
    props := ← defaulted ms ["props"] [] toObject?
    rules := ← decodeRules ms
    visibleWhen := ← optional ms ["visibleWhen", "visible_when"] toText?
    valueProp := ← optional ms ["valuePropName", "value_prop_name"] toText? }

/-- Reads a rendered form from its shape on the wire. -/
def RenderedForm.decode? (v : Value) : Option RenderedForm := do
  let ms ← v.toObject?
  pure {
    id := ← needed ms ["formId", "form_id"] toText?
    version := ← needed ms ["version"] toText?
    fields := ← defaulted ms ["fields"] [] fun v => do
      (← v.toList?).mapM RenderedField.decode? }

end Formwork
