import Formwork.Form.Wire

/-!
Reading the stored shape of a form back. Every attribute may also be given under its name in
lower-case words joined by underscores, the camel-case key having priority; members without a
meaning are passed over. A switch may also be given as a number or a word. Everything else must have
its type.
-/
namespace Formwork
open Formwork.Idl

namespace Value

/-- The value of a member under the first of the keys that is there. -/
def under? (members : List (String × Value)) (keys : List String) : Option Value :=
  keys.findSome? (find? members)

def toText? : Value → Option String
  | .text s => some s
  | _ => none

def toList? : Value → Option (List Value)
  | .list items => some items
  | _ => none

def toObject? : Value → Option (List (String × Value))
  | .object members => some members
  | _ => none

/-- Words for on and off, in any case. -/
def switchWord? (s : String) : Option Bool :=
  let word := s.toLower
  if ["1", "on", "t", "true", "y", "yes"].contains word then some true
  else if ["0", "off", "f", "false", "n", "no"].contains word then some false
  else none

/-- A switch given as such, as a number or as a word. -/
def toSwitch? : Value → Option Bool
  | .bool b => some b
  | .int 0 => some false
  | .int 1 => some true
  | .float x =>
    match x.toInt? with
    | some 0 => some false
    | some 1 => some true
    | _ => none
  | .text s => switchWord? s
  | _ => none

/-- An attribute that must be there. -/
def needed {α : Type} (members : List (String × Value)) (keys : List String)
    (read : Value → Option α) : Option α :=
  (under? members keys).bind read

/-- An attribute with a default. -/
def defaulted {α : Type} (members : List (String × Value)) (keys : List String) (default : α)
    (read : Value → Option α) : Option α :=
  match under? members keys with
  | none => some default
  | some v => read v

/-- An attribute that may be missing or null. -/
def optional {α : Type} (members : List (String × Value)) (keys : List String)
    (read : Value → Option α) : Option (Option α) :=
  match under? members keys with
  | none | some .null => some none
  | some v => (read v).map some

end Value

open Value

def Idl.Choice.decode? (v : Value) : Option Choice := do
  let ms ← v.toObject?
  pure ⟨← needed ms ["label"] toText?, ← needed ms ["value"] toText?⟩

def FormOption.decode? : Value → Option FormOption
  | .text s => some (.plain s)
  | v => (Choice.decode? v).map .choice

def Rule.decode? (v : Value) : Option Rule := do
  let ms ← v.toObject?
  pure {
    type := ← needed ms ["type"] toText?
    value := ← optional ms ["value"] toText?
    plugin := ← optional ms ["plugin"] toText? }

def decodeRules (members : List (String × Value)) : Option (List Rule) :=
  defaulted members ["rules"] [] fun v => do (← v.toList?).mapM Rule.decode?

def decodeCondition (v : Value) : Option String := do needed (← v.toObject?) ["expr"] toText?

/-- A field with its children already read. -/
def FormField.assemble (ms : List (String × Value)) (children : Option (List FormField)) :
    Option FormField := do
  pure {
    key := ← needed ms ["key"] toText?
    label := ← needed ms ["label"] toText?
    kind := ← needed ms ["fieldType", "field_type"] toText?
    required := ← defaulted ms ["required"] false toSwitch?
    listInTable := ← defaulted ms ["listInTable", "list_in_table"] false toSwitch?
    uniqueKey := ← defaulted ms ["uniqueKey", "unique_key"] false toSwitch?
    options := ← optional ms ["options"] fun v => do (← v.toList?).mapM FormOption.decode?
    itemType := ← optional ms ["itemType", "item_type"] toText?
    children
    rules := ← decodeRules ms
    visibility := ← optional ms ["visibility"] decodeCondition
    metadata := ← optional ms ["metadata"] toObject? }

def FormField.childKeys : List String := ["objectFields", "object_fields"]

/-- The children under the first of the keys that is there. -/
def FormField.decodeChildren (keys : List String)
    (nested : List (String × Option (Option (List FormField)))) :
    Option (Option (List FormField)) :=
  match keys.findSome? (nested.lookup ·) with
  | none => some none
  | some children => children

mutual

def FormField.decode? : Value → Option FormField
  | .object ms => do
    let children ← FormField.decodeChildren FormField.childKeys (FormField.decodeNested ms)
    FormField.assemble ms children
  | _ => none

/-- The children that each member would yield if it held them. -/
def FormField.decodeNested :
    List (String × Value) → List (String × Option (Option (List FormField)))
  | [] => []
  | (k, v) :: ms => (k, FormField.decodeOptionalList v) :: FormField.decodeNested ms

def FormField.decodeOptionalList : Value → Option (Option (List FormField))
  | .null => some none
  | .list vs => (FormField.decodeAll vs).map some
  | _ => none

def FormField.decodeAll : List Value → Option (List FormField)
  | [] => some []
  | v :: vs => do pure ((← FormField.decode? v) :: (← FormField.decodeAll vs))

end

/-- Reads the stored shape of a form; `none` when an attribute is missing or of another type. -/
def Form.decode? (v : Value) : Option Form := do
  let ms ← v.toObject?
  pure {
    name := ← needed ms ["formName", "form_name"] toText?
    version := ← defaulted ms ["version"] "1.0.0" toText?
    tenant := ← optional ms ["tenantId", "tenant_id"] toText?
    status := ← defaulted ms ["status"] .draft fun v => v.toText?.bind FormStatus.ofName?
    createdAt := ← needed ms ["createdAt", "created_at"] toText?
    fields := ← defaulted ms ["fields"] [] fun v => do FormField.decodeAll (← v.toList?) }

end Formwork
