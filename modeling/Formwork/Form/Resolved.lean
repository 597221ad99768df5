import Formwork.Form.Wire

/-!
Resolved fields: declarations whose types have been looked up. The constructor tells the kind of
value that a field takes, and holds what that kind needs.
-/
namespace Formwork
open Formwork.Idl

/-- What all resolved fields have. -/
structure FieldBase where
  name : String
  label : String
  required : Bool
  rules : List Rule
  listVisible : Bool
  uniqueKey : Bool
  deriving DecidableEq, Repr

/-- The ways to enter a text. -/
inductive Widget
  | line
  | textarea
  | markdown
  | json
  | image
  deriving DecidableEq, Repr

namespace Widget

def kind : Widget → String
  | .line => "string"
  | .textarea => "textarea"
  | .markdown => "markdown"
  | .json => "json"
  | .image => "image"

/-- The widget that an annotation selects; an unknown name selects a plain line. -/
def ofName : String → Widget
  | "textarea" => .textarea
  | "markdown" => .markdown
  | "json" => .json
  | "image" => .image
  | _ => .line

end Widget

/-- The items of a list of scalars. -/
inductive ItemType
  | text
  | number
  deriving DecidableEq, Repr

def ItemType.name : ItemType → String
  | .text => "string"
  | .number => "number"

inductive ResolvedField
  | text (base : FieldBase) (widget : Widget)
  | number (base : FieldBase)
  | switch (base : FieldBase)
  | select (base : FieldBase) (choices : List Choice)
  | checkboxGroup (base : FieldBase) (options : List FormOption)
  | array (base : FieldBase) (item : ItemType)
  | imageArray (base : FieldBase)
  | object (base : FieldBase) (fields : List ResolvedField)
  | objectArray (base : FieldBase) (fields : List ResolvedField)

namespace ResolvedField

def base : ResolvedField → FieldBase
  | .text b _ | .number b | .switch b | .select b _ | .checkboxGroup b _ | .array b _
  | .imageArray b | .object b _ | .objectArray b _ => b

/-- The component that shows the field. -/
def kind : ResolvedField → String
  | .text _ w => w.kind
  | .number _ => "number"
  | .switch _ => "switch"
  | .select _ _ => "select"
  | .checkboxGroup _ _ => "checkbox-group"
  | .array _ _ => "array"
  | .imageArray _ => "array-image"
  | .object _ _ => "object"
  | .objectArray _ _ => "array<object>"

/-- The members that all kinds have. -/
def baseMembers (b : FieldBase) (kind : String) : List (String × Value) :=
  [("name", .text b.name), ("label", .text b.label), ("required", .bool b.required),
    ("rules", .list (b.rules.map (Rule.toValue .omit))), ("list_visible", .bool b.listVisible),
    ("unique_key", .bool b.uniqueKey), ("type", .text kind)]

mutual

/-- The shape of a resolved field in a manifest. -/
def toValue : ResolvedField → Value
  | .text b w => .object (baseMembers b w.kind)
  | .number b => .object (baseMembers b "number")
  | .switch b => .object (baseMembers b "switch")
  | .select b cs =>
    .object (baseMembers b "select" ++ [("options", .list (cs.map Choice.toValue))])
  | .checkboxGroup b os =>
    .object (baseMembers b "checkbox-group" ++ [("options", .list (os.map FormOption.toValue))])
  | .array b item => .object (baseMembers b "array" ++ [("item_type", .text item.name)])
  | .imageArray b => .object (baseMembers b "array-image")
  | .object b fs => .object (baseMembers b "object" ++ [("object_fields", .list (toValues fs))])
  | .objectArray b fs =>
    .object (baseMembers b "array<object>" ++ [("item_object_fields", .list (toValues fs))])

def toValues : List ResolvedField → List Value
  | [] => []
  | f :: fs => toValue f :: toValues fs

end

mutual

/-- The field of a form that a resolved field becomes. -/
def toFormField (f : ResolvedField) : FormField :=
  let plain (b : FieldBase) (kind : String) : FormField :=
    { key := b.name, label := b.label, kind, required := b.required, listInTable := b.listVisible,
      uniqueKey := b.uniqueKey, rules := b.rules }
  match f with
  | .text b w => plain b w.kind
  | .number b => plain b "number"
  | .switch b => plain b "switch"
  | .select b cs => { plain b "select" with options := some (cs.map .choice) }
  | .checkboxGroup b os => { plain b "checkbox-group" with options := some os }
  | .array b item => { plain b "array" with itemType := some item.name }
  | .imageArray b => plain b "array-image"
  | .object b fs => { plain b "object" with children := some (toFormFields fs) }
  | .objectArray b fs => { plain b "array<object>" with children := some (toFormFields fs) }

def toFormFields : List ResolvedField → List FormField
  | [] => []
  | f :: fs => toFormField f :: toFormFields fs

end

end ResolvedField

end Formwork
