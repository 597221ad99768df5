import Formwork.Form.Field

/-!
The stored shape of a form: an object with camel-case keys in a fixed order.
-/
namespace Formwork
open Formwork.Idl

/-- Whether attributes that are not set are left out or written as null. -/
inductive Nulls
  | omit
  | keep
  deriving DecidableEq, Repr

/-- The member of an optional attribute. -/
def Nulls.member (n : Nulls) (key : String) : Option Value → List (String × Value)
  | some v => [(key, v)]
  | none =>
    match n with
    | .omit => []
    | .keep => [(key, .null)]

mutual

/-- Data of any shape as stored: an infinity, or a value that is no number, is written as null. -/
def Value.stored : Value → Value
  | .float (.nan _) | .float (.infinite _) => .null
  | .list items => .list (storedItems items)
  | .object members => .object (storedMembers members)
  | v => v

def Value.storedItems : List Value → List Value
  | [] => []
  | v :: vs => v.stored :: storedItems vs

def Value.storedMembers : List (String × Value) → List (String × Value)
  | [] => []
  | (k, v) :: ms => (k, v.stored) :: storedMembers ms

end

def Idl.Choice.toValue (c : Choice) : Value :=
  .object [("label", .text c.label), ("value", .text c.value)]

def FormOption.toValue : FormOption → Value
  | .plain text => .text text
  | .choice c => c.toValue

def Rule.toValue (n : Nulls) (r : Rule) : Value :=
  .object (("type", .text r.type) :: n.member "value" (r.value.map .text) ++
    n.member "plugin" (r.plugin.map .text))

mutual

def FormField.toValue (n : Nulls) (f : FormField) : Value :=
  match f with
  | { key, label, kind, required, listInTable, uniqueKey, options, itemType, children, rules,
      visibility, metadata } =>
    .object <|
      [("key", .text key), ("label", .text label), ("fieldType", .text kind),
        ("required", .bool required), ("listInTable", .bool listInTable),
        ("uniqueKey", .bool uniqueKey)] ++
      n.member "options" (options.map fun os => .list (os.map FormOption.toValue)) ++
      n.member "itemType" (itemType.map .text) ++
      n.member "objectFields" (FormField.childValues n children) ++
      [("rules", .list (rules.map (Rule.toValue n)))] ++
      n.member "visibility" (visibility.map fun e => .object [("expr", .text e)]) ++
      n.member "metadata" (metadata.map fun ms => .object (Value.storedMembers ms))

def FormField.childValues (n : Nulls) : Option (List FormField) → Option Value
  | none => none
  | some fs => some (.list (FormField.toValues n fs))

def FormField.toValues (n : Nulls) : List FormField → List Value
  | [] => []
  | f :: fs => f.toValue n :: FormField.toValues n fs

end

/-- The stored shape of a form; what is not set is left out. -/
def Form.toValue (f : Form) : Value :=
  .object <|
    [("formName", .text f.name), ("version", .text f.version)] ++
    Nulls.omit.member "tenantId" (f.tenant.map .text) ++
    [("status", .text f.status.name), ("createdAt", .text f.createdAt),
      ("fields", .list (FormField.toValues .omit f.fields))]

end Formwork
