import Formwork.Idl.Document
import Formwork.Record.Slot

/-!
Registries of components: what draws the fields of a rendered form.
-/
namespace Formwork.Extension
open Formwork.Record

/-- Components by the type they are registered for, in the order of registration. -/
abbrev Registry := List (String × Value)

/-- The component types that come with forms. -/
def builtinTypes : List String :=
  ["string", "textarea", "markdown", "json", "image", "number", "switch", "checkbox", "select",
    "checkbox-group", "array", "array-image", "object", "array<object>"]

/-- No component is registered for a type. -/
structure NotRegistered where
  type : String
  deriving DecidableEq, Repr

def NotRegistered.message (e : NotRegistered) : String := "Component not found for type: " ++ e.type

namespace Registry

/-- A component registered for a type; an earlier one gives way, but keeps its place. -/
def register (r : Registry) (type : String) (component : Value) : Registry :=
  Value.put type component r

/-- A registry of given components. -/
def ofEntries (entries : List (String × Value)) : Registry := Keyed.table entries

def types (r : Registry) : List String := r.map (·.1)

def find (r : Registry) (type : String) : Except NotRegistered Value :=
  match r.lookup type with
  | some component => .ok component
  | none => .error ⟨type⟩

end Registry

mutual

/-- The component types of the fields that a property describes, and of all fields below. -/
def describedTypes : Value → Except ChildFault (List String)
  | .list items => itemTypes items
  | .null => .ok []
  | .bool b => if b then .error .notList else .ok []
  | .int n => if n = 0 then .ok [] else .error .notList
  | .float x => if x.isZero then .ok [] else .error .notList
  | .text s => if s.isEmpty then .ok [] else .error .notField
  | .object ms => if ms.isEmpty then .ok [] else .error .notField

def itemTypes : List Value → Except ChildFault (List String)
  | [] => .ok []
  | .object ms :: rest => do
    let nested ← memberTypes ms
    pure ((Value.get ms "fieldType").text?.toList ++ nested ++ (← itemTypes rest))
  | _ :: _ => .error .notField

def memberTypes : List (String × Value) → Except ChildFault (List String)
  | [] => .ok []
  | (k, v) :: ms => if k = "objectFields" then describedTypes v else memberTypes ms

end

/-- The component types that a rendered form uses. -/
def usedTypes (form : RenderedForm) : Except ChildFault (List String) := do
  let nested ← form.fields.mapM fun f => do
    pure (f.component :: (← describedTypes (Value.get f.props "objectFields")))
  pure nested.flatten

/-- The component types that a rendered form uses without any being registered, sorted. -/
def Registry.missing (r : Registry) (form : RenderedForm) : Except ChildFault (List String) := do
  let used ← usedTypes form
  pure ((used.eraseDups.filter (!r.types.contains ·)).mergeSort (· ≤ ·))

end Formwork.Extension
