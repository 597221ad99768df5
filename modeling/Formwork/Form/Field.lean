import Formwork.Idl.Declaration
import Formwork.Value.Basic

/-!
Forms: versioned descriptions of records by typed fields.
-/
namespace Formwork
open Formwork.Idl

/-- A check on a field. Its type is a plain name, since plugins add types of their own. -/
structure Rule where
  type : String
  value : Option String := none
  plugin : Option String := none
  deriving DecidableEq, Repr

/-- The rule types with a meaning of their own. -/
def Rule.builtin : List String :=
  ["required", "min", "max", "pattern", "json", "markdown", "custom"]

/-- An option of a field: a text that stands for itself, or a choice with a label. -/
inductive FormOption
  | plain (text : String)
  | choice (choice : Choice)
  deriving DecidableEq, Repr

/-- What is stored when an option is picked. -/
def FormOption.value : FormOption → String
  | .plain text => text
  | .choice c => c.value

/-- A field of a form. Its kind names the component that shows it; `children` are the fields of an
object, or of the rows of a list of objects. -/
structure FormField where
  key : String
  label : String
  kind : String
  required : Bool := false
  listInTable : Bool := false
  uniqueKey : Bool := false
  options : Option (List FormOption) := none
  itemType : Option String := none
  children : Option (List FormField) := none
  rules : List Rule := []
  /-- The condition under which the field is shown. -/
  visibility : Option String := none
  metadata : Option (List (String × Value)) := none

def hasRule (rules : List Rule) (type : String) : Bool := rules.any (·.type == type)

namespace FormField

def has (f : FormField) (type : String) : Bool := hasRule f.rules type

/-- Required by its flag or by a rule. -/
def isRequired (f : FormField) : Bool := f.required || f.has "required"

end FormField

/-- Whether a form is still being worked on. -/
inductive FormStatus
  | draft
  | published
  deriving DecidableEq, Repr

namespace FormStatus

def name : FormStatus → String
  | .draft => "draft"
  | .published => "published"

def ofName? : String → Option FormStatus
  | "draft" => some .draft
  | "published" => some .published
  | _ => none

end FormStatus

/-- A form as it is compiled and stored. -/
structure Form where
  name : String
  version : String := "1.0.0"
  tenant : Option String := none
  status : FormStatus := .draft
  createdAt : String
  fields : List FormField := []

/-- The first top-level field with a key. -/
def Form.field? (f : Form) (key : String) : Option FormField := f.fields.find? (·.key == key)

end Formwork
