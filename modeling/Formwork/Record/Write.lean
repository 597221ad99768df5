import Formwork.Record.Check
import Formwork.Value.Display

/-!
Checks before a record is written: required fields are filled, values have their shape, and the
unique key is there, unchanged and not taken.
-/
namespace Formwork.Record
open Formwork.Text

/-- Kinds that are filled when they are switched on. -/
def switchKinds : List String := ["switch", "checkbox"]

/-- Kinds that are filled when they have an item. -/
def listKinds : List String := ["checkbox-group", "array", "array<object>", "array-image"]

/-- Whether a value fills a field of a kind. -/
def fills (kind : String) (value : Value) : Bool :=
  if switchKinds.contains kind then
    match value with
    | .bool b => b
    | _ => false
  else if listKinds.contains kind then
    match value with
    | .list items => !items.isEmpty
    | _ => false
  else if kind = "object" then
    match value with
    | .object ms => !ms.isEmpty
    | _ => false
  else
    match value with
    | .text s => !(strip s.toList).isEmpty
    | v => !v.isNull

/-- A member of a record, or null. -/
def member (record : Value) (key : String) : Except Refusal Value :=
  match record with
  | .object members => .ok (Value.get members key)
  | _ => .error .noMembers

/-- The required fields at the top of a form are filled. -/
def checkRequired (form : Form) (record : Value) : Except Refusal Unit :=
  form.fields.forM fun f =>
    if f.isRequired then do
      if fills f.kind (← member record f.key) then pure ()
      else throw (.defect ⟨.missing, [.key f.key], [f.label]⟩)
    else pure ()

/-- The key of the first field that is marked as the unique key. -/
def uniqueKey? (form : Form) : Option String := (form.fields.find? (·.uniqueKey)).map (·.key)

/-- The text of a value as a unique key. -/
def uniqueText : Value → Option String
  | .null => none
  | v => some v.plain

/-- The unique value of a record. -/
def uniqueValue? (record : Value) (key : String) : Except Refusal (Option String) := do
  pure (uniqueText (← member record key))

/-- What is wrong with the unique key of a record. -/
inductive KeyFlaw
  | missing
  | changed
  | taken (value : String)
  deriving DecidableEq, Repr

/-- Why a record cannot be written. -/
inductive WriteRefusal
  | shape (refusal : Refusal)
  | key (field : String) (flaw : KeyFlaw)
  deriving DecidableEq, Repr

def KeyFlaw.text (field : String) : KeyFlaw → String
  | .missing => s!"Unique key \"{field}\" is required"
  | .changed => s!"Unique key \"{field}\" is immutable once initialized"
  | .taken value => s!"Unique key \"{field}\" value \"{value}\" already exists"

def keyComplaint (field : String) (flaw : KeyFlaw) : Complaint := .onKey (flaw.text field) field

/-- What a write is checked against. -/
structure Context where
  /-- The stored record that is updated. -/
  previous : Option Value := none
  /-- Whether another record has a value under a key. -/
  isTaken : String → String → Bool := fun _ _ => false

/-- Checks the unique key of a record and returns its value, if the form has one. -/
def checkUniqueKey (form : Form) (record : Value) (context : Context) :
    Except WriteRefusal (Option String) := do
  match uniqueKey? form with
  | none => pure none
  | some key =>
    match (← (uniqueValue? record key).mapError .shape).filter (!·.isEmpty) with
    | none => throw (.key key .missing)
    | some value =>
      let stored ← match context.previous with
        | none => pure none
        | some record => (uniqueValue? record key).mapError .shape
      if stored.any fun old => !old.isEmpty && old != value then throw (.key key .changed)
      else if context.isTaken key value then throw (.key key (.taken value))
      else pure (some value)

/-- Everything that is checked before a record is written. -/
def checkWrite (form : Form) (record : Value) (context : Context) (checks : Checks) :
    Except WriteRefusal Unit := do
  (checkRequired form record).mapError .shape
  (validate (.form form) record checks).mapError .shape
  let _ ← checkUniqueKey form record context
  pure ()

end Formwork.Record
