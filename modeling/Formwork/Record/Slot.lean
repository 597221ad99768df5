import Formwork.Rendering.Form
import Formwork.Value.Display

/-!
Slots: what the validation of records needs to know of a field, be it of a form or of a rendered
form.
-/
namespace Formwork.Record

structure Slot where
  key : String
  label : String
  kind : String
  rules : List Rule
  children : List Slot

def Slot.has (s : Slot) (type : String) : Bool := hasRule s.rules type

mutual

/-- The slot of a field; without a label it is labelled by its key. -/
def ofField : FormField → Slot
  | { key, label, kind, rules, children, .. } =>
    ⟨key, if label.isEmpty then key else label, kind, rules, ofChildren children⟩

def ofChildren : Option (List FormField) → List Slot
  | none => []
  | some fs => ofFields fs

def ofFields : List FormField → List Slot
  | [] => []
  | f :: fs => ofField f :: ofFields fs

end

/-- Why the fields of the objects in a rendered field cannot be told. -/
inductive ChildFault
  /-- They are no collection. -/
  | notList
  /-- One of them is no field. -/
  | notField
  deriving DecidableEq, Repr

/-- The fields that the property of a rendered field describes. -/
def describedFields (v : Value) : Except ChildFault (List FormField) :=
  if !v.truth then .ok []
  else match v with
    | .list items =>
      match FormField.decodeAll items with
      | some fs => .ok fs
      | none => .error .notField
    | .text _ | .object _ => .error .notField
    | _ => .error .notList

def ofRendered (f : RenderedField) : Except ChildFault Slot := do
  let children ← describedFields (Value.get f.props "objectFields")
  pure ⟨f.id, f.label.plain, f.component, f.rules, ofFields children⟩

/-- What records are validated against. -/
inductive Schema
  | form (form : Form)
  | rendered (form : RenderedForm)

def Schema.slots : Schema → Except ChildFault (List Slot)
  | .form f => .ok (ofFields f.fields)
  | .rendered f => f.fields.mapM ofRendered

end Formwork.Record
