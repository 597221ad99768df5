import Formwork.Form.Field
import Formwork.Moment
import Formwork.Value.Display

/-!
Loading forms that several generations of tools have stored. Keys may be written in either style,
children stand under several names, and flags may stand in the metadata. What has no usable type
is dropped or replaced by a default.
-/
namespace Formwork
open Formwork.Idl Formwork.Value

/-- The item type of a field is a list or an object, which cannot be looked up among the item
types. -/
structure UnusableItemType where
  deriving DecidableEq, Repr

namespace Stored

/-- The first value under the keys that is not null, or null. -/
def first (members : List (String × Value)) (keys : List String) : Value :=
  (keys.findSome? fun k => (find? members k).filter (!·.isNull)).getD .null

def orElse (v w : Value) : Value := if v.isNull then w else v

/-- The item types of lists. -/
def itemTypes : List String := ["string", "number", "boolean", "object"]

/-- The first of the values that is an item type. -/
def itemType? : List Value → Except UnusableItemType (Option String)
  | [] => .ok none
  | .list _ :: _ | .object _ :: _ => .error {}
  | .text s :: vs => if itemTypes.contains s then .ok (some s) else itemType? vs
  | _ :: vs => itemType? vs

def option? : Value → Option FormOption
  | .text s => some (.plain s)
  | .object ms => do
    let label ← (get ms "label").text?
    let value ← (get ms "value").text?
    pure (.choice ⟨label, value⟩)
  | _ => none

/-- A list, or nothing when it has no items. -/
def someList {α : Type} (xs : List α) : Option (List α) := if xs.isEmpty then none else some xs

def options (v : Value) : Option (List FormOption) :=
  match v with
  | .list items => someList (items.filterMap option?)
  | _ => none

/-- A rule; its type may be any value, and one that counts as false means a custom rule. -/
def rule? : Value → Option Rule
  | .object ms =>
    let type := get ms "type"
    some {
      type := if type.truth then type.plain else "custom"
      value := (get ms "value").text?
      plugin := (get ms "plugin").text? }
  | _ => none

def rules : Value → List Rule
  | .list items => items.filterMap rule?
  | _ => []

def flag : Value → Bool
  | .bool b => b
  | _ => false

def condition? : Value → Option String
  | .object ms => (get ms "expr").text?
  | _ => none

def metadata (members : List (String × Value)) : List (String × Value) :=
  match get members "metadata" with
  | .object ms => ms
  | _ => []

/-- The key of a field, or its name where the key is no text. -/
def key? (members : List (String × Value)) : Option String :=
  let key := get members "key"
  ((match key with
    | .text s => some s
    | _ => (get members "name").text?)).filter (!·.isEmpty)

/-- A field with its children already loaded. -/
def assemble (ms : List (String × Value)) (key : String) (itemType : Option String)
    (children : Option (List FormField)) : FormField :=
  let info := metadata ms
  {
    key
    label := (get ms "label").text?.getD key
    kind := (["fieldType", "field_type", "type"].findSome? fun k => (get ms k).text?).getD "string"
    required := (get ms "required").truth
    listInTable := flag (orElse
      (first ms ["listInTable", "list_in_table", "listVisible", "list_visible"])
      (get info "listInTable"))
    uniqueKey := flag (orElse (first ms ["uniqueKey", "unique_key"]) (get info "uniqueKey"))
    options := options (get ms "options")
    itemType
    children
    rules := rules (get ms "rules")
    visibility := condition? (get ms "visibility")
    metadata := someList info }

def childKeys : List String :=
  ["objectFields", "object_fields", "fields", "itemObjectFields", "item_object_fields"]

/-- The fields that a value would yield if it held the children of a field; `none` is a null. -/
abbrev Candidate := Option (Except UnusableItemType (List FormField))

/-- The first candidate under the keys that is not null. -/
def candidate? (keys : List String) (nested : List (String × Candidate)) : Candidate :=
  keys.findSome? fun k => (nested.lookup k).join

mutual

/-- The field that a value describes; `none` when it has no key. -/
def field? : Value → Except UnusableItemType (Option FormField)
  | .object ms => do
    match key? ms with
    | none => pure none
    | some key =>
      let itemType ← itemType? [get ms "itemType", get ms "item_type"]
      let own := candidate? childKeys (candidates ms)
      let children ← (own.orElse fun _ => inMetadata ms).getD (pure [])
      pure (some (assemble ms key itemType (someList children)))
  | _ => pure none

def candidates : List (String × Value) → List (String × Candidate)
  | [] => []
  | (k, v) :: ms => (k, candidateOf v) :: candidates ms

def candidateOf : Value → Candidate
  | .null => none
  | .list vs => some (fields vs)
  | _ => some (pure [])

/-- The children in the metadata. -/
def inMetadata : List (String × Value) → Candidate
  | [] => none
  | (k, v) :: ms => if k = "metadata" then metadataChildren v else inMetadata ms

def metadataChildren : Value → Candidate
  | .object info => ((candidates info).lookup "objectFields").join
  | _ => none

/-- The fields that the objects among some values describe. -/
def fields : List Value → Except UnusableItemType (List FormField)
  | [] => pure []
  | v :: vs => do
    let f ← field? v
    let fs ← fields vs
    pure (f.toList ++ fs)

end

/-- What a caller may set in place of what is stored. -/
structure Overrides where
  name : Option String := none
  version : Option String := none
  status : Option String := none

/-- Why a stored form cannot be loaded. -/
inductive LoadError
  | itemType
  /-- The name or the version is no text. -/
  | wrongType
  deriving DecidableEq, Repr

/-- The object that holds the fields: the document itself, or its schema. -/
def root (raw : List (String × Value)) : List (String × Value) :=
  match get raw "fields", get raw "schema" with
  | .list _, _ => raw
  | _, .object schema => schema
  | _, _ => raw

/-- The first value that counts as true. -/
def firstTrue (vs : List Value) : Option Value := vs.find? Value.truth

def textOf (o : Option String) : Value :=
  match o with
  | some s => .text s
  | none => .null

end Stored

open Stored in
/-- Loads a stored form; `none` when no list of fields is found. -/
def Form.load (raw : List (String × Value)) (overrides : Overrides) (now : Moment) :
    Except LoadError (Option Form) := do
  let root := Stored.root raw
  match get root "fields" with
  | .list values =>
    let loaded ← (Stored.fields values).mapError fun _ => .itemType
    let status := firstTrue [textOf overrides.status, get raw "status", get root "status"]
    let created := firstTrue [get raw "createdAt", get root "createdAt"]
    let name := firstTrue [textOf overrides.name, first raw ["formName", "form_name"],
      first root ["formName", "form_name"]]
    let version := firstTrue [textOf overrides.version, get raw "version", get root "version"]
    let text (v : Option Value) (default : String) : Except LoadError String :=
      match v with
      | none => pure default
      | some (.text s) => pure s
      | some _ => throw .wrongType
    pure (some {
      name := ← text name "proto_form"
      version := ← text version "1.0.0"
      tenant := (get raw "tenantId").text?
      status := (status.bind fun v => v.text?.bind FormStatus.ofName?).getD .draft
      createdAt := (created.bind Value.text?).getD now.withOffset
      fields := loaded })
  | _ => pure none

end Formwork
