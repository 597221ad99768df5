import Formwork.Form.Field
import Formwork.Idl.Document
import Formwork.JsonSchema.Node
import Formwork.Number.Reading
import Formwork.Pattern.Reader

/-!
Describing forms as JSON Schema documents. The kind of a field gives the type of its values; the
rules about size and pattern give limits; every object is closed.
-/
namespace Formwork.JsonSchema
open Formwork.Idl

def dialectUri : String := "https://json-schema.org/draft/2020-12/schema"

/-- Kinds whose values are texts. -/
def textKinds : List String := ["string", "textarea", "markdown", "json", "select"]

/-- Kinds whose values are lists. -/
def listKinds : List String := ["array", "checkbox-group", "array-image", "array<object>"]

/-- The bound that the value of a rule spells. -/
def bound? (value : Option String) : Option Bound :=
  value.bind fun text => (Decimal.read? text.toList).map .ofFloat

/-- The type of the items of a list of scalars. -/
def itemType : Option String → TypeName
  | some "number" => .number
  | some "boolean" => .boolean
  | some "object" => .object
  | _ => .string

/-- A text, one of the options where there are some. -/
def optionNode (f : FormField) : Node :=
  match (f.options.getD []).map FormOption.value with
  | [] => [.type [.string]]
  | values => [.type [.string], .options values]

/-- A list of items. -/
def listOf (items : Node) : Node := [.type [.array], .items items]

/-- An object with the fields' nodes as its properties. -/
def objectNode (required : List String) (properties : List (String × Node)) : Node :=
  [.type [.object], .properties properties, .required required, .closed]

/-- The type of a field's values; `children` is the node of its rows or of itself. -/
def typeNode (f : FormField) (children : Node) : Node :=
  match f.kind with
  | "number" => [.type [.number]]
  | "switch" | "checkbox" => [.type [.boolean]]
  | "select" => optionNode f
  | "string" | "textarea" | "markdown" | "json" => [.type [.string]]
  | "image" => [.type [.string, .array], .items [.type [.string]]]
  | "array" => listOf [.type [itemType f.itemType]]
  | "array-image" => listOf [.type [.string]]
  | "checkbox-group" => listOf (optionNode f)
  | "object" => children
  | "array<object>" => listOf children
  | _ => []

/-- The lower and the upper limit that rules set for a kind. -/
def limits? (kind : String) : Option (Limit × Limit) :=
  if textKinds.contains kind then some (.minLength, .maxLength)
  else if listKinds.contains kind then some (.minItems, .maxItems)
  else if kind = "number" then some (.minimum, .maximum)
  else none

def putLimit (which : Option Limit) (r : Rule) (node : Node) : Node :=
  match which, bound? r.value with
  | some which, some bound => node.put (.limit which bound)
  | _, _ => node

/-- A pattern that is malformed is left out. -/
def putPattern (kind : String) (r : Rule) (node : Node) : Except Pattern.Fault Node :=
  let text := r.value.getD ""
  if text.isEmpty || !textKinds.contains kind then .ok node
  else match Pattern.read text.toList with
    | .ok _ => .ok (node.put (.pattern text))
    | .error .malformed => .ok node
    | .error fault => .error fault

def putRule (kind : String) (node : Node) (r : Rule) : Except Pattern.Fault Node :=
  match r.type with
  | "min" => .ok (putLimit ((limits? kind).map (·.1)) r node)
  | "max" => .ok (putLimit ((limits? kind).map (·.2)) r node)
  | "pattern" => putPattern kind r node
  | _ => .ok node

/-- The node of a field around the type of its values. -/
def fieldNode (f : FormField) (children : Node) : Except Pattern.Fault Node := do
  let title : Node := if f.label.isEmpty then [] else [.title f.label]
  let node ← f.rules.foldlM (putRule f.kind) (title ++ typeNode f children)
  if f.isRequired && textKinds.contains f.kind && !node.has "minLength" then
    pure (node.put (.limit .minLength (.whole 1)))
  else pure node

def requiredKeys (fs : List FormField) : List String := (fs.filter (·.isRequired)).map (·.key)

/-- Kinds that show their children. -/
def hasChildren (kind : String) : Bool := kind == "object" || kind == "array<object>"

mutual

def exportField : FormField → Except Pattern.Fault Node
  | ⟨key, label, kind, required, inTable, unique, options, item, children, rules, visibility,
      metadata⟩ => do
    let node ← if hasChildren kind then exportChildren children else pure []
    fieldNode ⟨key, label, kind, required, inTable, unique, options, item, children, rules,
      visibility, metadata⟩ node

def exportChildren : Option (List FormField) → Except Pattern.Fault Node
  | none => pure (objectNode [] [])
  | some fs => do pure (objectNode (requiredKeys fs) (Keyed.table (← exportFields fs)))

def exportFields : List FormField → Except Pattern.Fault (List (String × Node))
  | [] => pure []
  | f :: fs => do
    let node ← exportField f
    pure ((f.key, node) :: (← exportFields fs))

end

/-- The document that describes the records of a form. -/
def ofForm (f : Form) : Except Pattern.Fault Node := do
  let fields ← exportFields f.fields
  pure ([.dialect dialectUri, .title f.name] ++ objectNode (requiredKeys f.fields) (Keyed.table fields))

end Formwork.JsonSchema
