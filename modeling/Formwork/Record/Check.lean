import Formwork.Number.Reading
import Formwork.Pattern.Match
import Formwork.Pattern.Reader
import Formwork.Record.Defect
import Formwork.Record.Fence
import Formwork.Record.ImageUrl
import Formwork.Record.Slot
import Formwork.Value.Reader

/-!
Validation of records. The fields of a form are visited in order, each with its kind, then its
children, then its rules, and the first defect ends the visit. Whether a value is there at all is
not asked here: null and the empty text pass.
-/
namespace Formwork.Record

/-- Why a record is refused: it has a defect, or what would tell cannot be asked. -/
inductive Refusal
  | defect (defect : Defect)
  /-- A pattern cannot be used, though it is well formed. -/
  | pattern (fault : Pattern.Fault)
  | authority
  | children (fault : ChildFault)
  /-- A member was asked of something that is no object. -/
  | noMembers
  deriving DecidableEq, Repr

/-- Named checks of a value, given the value of the rule that asks for them. -/
abbrev Checks := List (String × (Value → Option String → Bool))

/-- Null and the empty text. -/
def isVoid : Value → Bool
  | .null => true
  | .text s => s.isEmpty
  | _ => false

def isJsonText : Value → Bool
  | .text s => Value.isJson s.toList
  | _ => false

/-- Where a value stands: the path to it and the labels along it. -/
structure Place where
  path : List Step
  labels : List String

namespace Place

def root : Place := ⟨[], []⟩

def field (p : Place) (slot : Slot) : Place := ⟨p.path ++ [.key slot.key], p.labels ++ [slot.label]⟩

def item (p : Place) (index : Nat) : Place := ⟨p.path ++ [.index index], p.labels⟩

/-- The refusal for a flaw at a place. -/
def fail (p : Place) (flaw : Flaw) : Except Refusal Unit :=
  .error (.defect ⟨flaw, p.path, p.labels⟩)

def require (p : Place) (flaw : Flaw) (holds : Bool) : Except Refusal Unit :=
  if holds then .ok () else p.fail flaw

end Place

/-- The texts that a rule about texts is about: the value, or the items of a list of scalars. -/
def textsOf (kind : String) (value : Value) (p : Place) : List (Place × Value) :=
  match kind, value with
  | "array", .list items =>
    (items.zipIdx.filter fun (v, _) => !isVoid v).map fun (v, i) => (p.item i, v)
  | _, v => [(p, v)]

def checkJson (slot : Slot) (value : Value) (p : Place) : Except Refusal Unit :=
  if slot.kind = "json" || slot.has "json" then
    (textsOf slot.kind value p).forM fun (place, v) => place.require .notJson (isJsonText v)
  else .ok ()

def checkMarkdown (slot : Slot) (value : Value) (p : Place) : Except Refusal Unit :=
  if slot.kind = "markdown" || slot.has "markdown" then
    (textsOf slot.kind value p).forM fun (place, v) =>
      match v with
      | .text s => place.require .openFence (fencesBalanced s.toList)
      | _ => place.fail .notMarkdown
  else .ok ()

def requireImage (p : Place) (flaw : Flaw) (v : Value) : Except Refusal Unit :=
  match isImageUrl v with
  | .ok holds => p.require flaw holds
  | .error _ => .error .authority

/-- An image is a reference, or a list that begins with one. -/
def checkImage (value : Value) (p : Place) : Except Refusal Unit :=
  match value with
  | .list [] => .ok ()
  | .list (v :: _) => requireImage p .notImage v
  | v => requireImage p .notImage v

def checkImages (value : Value) (p : Place) : Except Refusal Unit :=
  match value with
  | .list items =>
    items.zipIdx.forM fun (v, i) => requireImage (p.item i) (.notImageItem i) v
  | _ => p.fail .notImageList

/-- The rows of a list of objects; an object stands for the only row. -/
def rows? : Value → Option (List Value)
  | .object ms => some [.object ms]
  | .list items => some items
  | _ => none

/-! ### Rules -/

/-- The size of a value: a number itself, the length of a text or a list. -/
def size? : Value → Option Quantity
  | .int n => some (.ofInt n)
  | .float x => some x.quantity
  | .text s => some (.ofInt s.length)
  | .list items => some (.ofInt items.length)
  | _ => none

def isNumber : Value → Bool
  | .bool _ | .int _ | .float _ => true
  | _ => false

/-- The bound that a rule sets. -/
def bound? (r : Rule) : Option Quantity :=
  r.value.bind fun text => (Decimal.read? text.toList).map Binary64.quantity

/-- A pattern is found in a text; one that is malformed asks for nothing. -/
def checkPattern (pattern : String) (value : Value) (p : Place) : Except Refusal Unit :=
  match value with
  | .text s =>
    if pattern.isEmpty then .ok ()
    else match Pattern.read pattern.toList with
      | .ok node => p.require .badFormat (node.foundIn s.toList)
      | .error .malformed => .ok ()
      | .error fault => .error (.pattern fault)
  | _ => .ok ()

def checkMin (r : Rule) (value : Value) (p : Place) : Except Refusal Unit :=
  match size? value, bound? r with
  | some size, some bound =>
    p.require (if isNumber value then .tooSmall else .tooShort) (!size.lt bound)
  | _, _ => .ok ()

def checkMax (r : Rule) (value : Value) (p : Place) : Except Refusal Unit :=
  match size? value, bound? r with
  | some size, some bound =>
    p.require (if isNumber value then .tooLarge else .tooLong) (!bound.lt size)
  | _, _ => .ok ()

/-- A check by name; a name without a check asks for nothing. -/
def checkNamed (checks : Checks) (name : String) (r : Rule) (value : Value) (p : Place) :
    Except Refusal Unit :=
  match checks.lookup name with
  | some check => p.require (.failedCheck name) (check value r.value)
  | none => .ok ()

/-- The check that a custom rule names: its plugin, or else its value. -/
def checkName (r : Rule) : String :=
  let plugin := r.plugin.getD ""
  if plugin.isEmpty then r.value.getD "" else plugin

def checkRule (checks : Checks) (value : Value) (p : Place) (r : Rule) : Except Refusal Unit :=
  match r.type with
  | "pattern" => checkPattern (r.value.getD "") value p
  | "min" => checkMin r value p
  | "max" => checkMax r value p
  | "custom" =>
    let name := checkName r
    if name.isEmpty then .ok () else checkNamed checks name r value p
  | type => if Rule.builtin.contains type then .ok () else checkNamed checks type r value p

/-! ### Fields -/

/-- Visits the rows of a list of objects in order, `index` being that of the first one. -/
def checkRows (check : Place → List (String × Value) → Except Refusal Unit) (p : Place)
    (index : Nat) : List Value → Except Refusal Unit
  | [] => .ok ()
  | .object ms :: rows => do
    check (p.item index) ms
    checkRows check p (index + 1) rows
  | _ :: _ => (p.item index).fail (.notRow index)

mutual

/-- Visits a field with its value. -/
def checkSlot (checks : Checks) (p : Place) (value : Value) : Slot → Except Refusal Unit
  | ⟨key, label, kind, rules, children⟩ =>
    let slot : Slot := ⟨key, label, kind, rules, children⟩
    if isVoid value then .ok ()
    else do
      checkJson slot value p
      checkMarkdown slot value p
      match kind, value with
      | "image", v => checkImage v p
      | "array-image", v => checkImages v p
      | "object", .object ms => checkSlots checks p ms children
      | "object", _ => p.fail .notObject
      | "array<object>", v =>
        match rows? v with
        | some rows => checkRows (fun place ms => checkSlots checks place ms children) p 0 rows
        | none => p.fail .notObjectList
      | _, _ => .ok ()
      rules.forM (checkRule checks value p)

/-- Visits fields in order with their values among the members of an object. -/
def checkSlots (checks : Checks) (p : Place) (members : List (String × Value)) :
    List Slot → Except Refusal Unit
  | [] => .ok ()
  | slot :: slots => do
    checkSlot checks (p.field slot) (Value.get members slot.key) slot
    checkSlots checks p members slots

end

/-- Validates a record. -/
def validate (schema : Schema) (record : Value) (checks : Checks) : Except Refusal Unit :=
  match record with
  | .object members => do
    let slots ← schema.slots.mapError .children
    checkSlots checks .root members slots
  | _ => Place.root.fail .notRecord

end Formwork.Record
