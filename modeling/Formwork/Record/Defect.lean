/-!
Defects of records: what is wrong, and where.
-/
namespace Formwork.Record

/-- A complaint: a text, and optionally the place in a record that it is about. -/
structure Complaint where
  text : String
  path : Option String := none
  label : Option String := none
  deriving DecidableEq, Repr

namespace Complaint

/-- A complaint about the value at a path; without a path it has no label either. -/
def about (text : String) (path label : Option String) : Complaint :=
  match path with
  | none => ⟨text, none, none⟩
  | some p => if p.isEmpty then ⟨text, none, none⟩ else ⟨text, some p, label⟩

/-- A complaint about a key, which is also its label. -/
def onKey (text key : String) : Complaint := ⟨text, some key, some key⟩

/-- The text, led by the label and the path in parentheses, or by the path alone. -/
def message (c : Complaint) : String :=
  match c.path with
  | none => c.text
  | some path =>
    let label := c.label.getD ""
    let place := if label.isEmpty || label = path then path else label ++ " (" ++ path ++ ")"
    place ++ ": " ++ c.text

end Complaint

/-- A step from a value to one of its parts. -/
inductive Step
  | key (name : String)
  | index (n : Nat)
  deriving DecidableEq, Repr

/-- A path longer by one step; a key follows a point unless nothing stands before it. -/
def Step.extend (path : String) : Step → String
  | .key k => if path.isEmpty then k else path ++ "." ++ k
  | .index i => path ++ "[" ++ toString i ++ "]"

/-- The text of a path from the record to one of its parts. -/
def pathText (steps : List Step) : String := steps.foldl Step.extend ""

/-- What is wrong with a value. -/
inductive Flaw
  | notRecord
  | missing
  | notJson
  | notMarkdown
  | openFence
  | notImage
  | notImageList
  | notImageItem (index : Nat)
  | notObject
  | notObjectList
  | notRow (index : Nat)
  | badFormat
  | tooShort
  | tooSmall
  | tooLong
  | tooLarge
  | failedCheck (name : String)
  deriving DecidableEq, Repr

def Flaw.text : Flaw → String
  | .notRecord => "Submitted data must be an object"
  | .missing => "is required"
  | .notJson => "must be valid JSON"
  | .notMarkdown => "must be markdown text"
  | .openFence => "has an unclosed code block"
  | .notImage => "must be an image URL"
  | .notImageList => "must be a list of image URLs"
  | .notImageItem i => s!"item {i} must be an image URL"
  | .notObject => "must be an object"
  | .notObjectList => "must be a list of objects"
  | .notRow i => s!"row {i} must be an object"
  | .badFormat => "format is invalid"
  | .tooShort => "is too short"
  | .tooSmall => "is too small"
  | .tooLong => "is too long"
  | .tooLarge => "is too large"
  | .failedCheck name => s!"failed {name} validation"

/-- A flaw of the value at the end of a path; `labels` are those of the fields along it. -/
structure Defect where
  flaw : Flaw
  path : List Step
  labels : List String
  deriving DecidableEq, Repr

def Defect.complaint (d : Defect) : Complaint :=
  .about d.flaw.text (some (pathText d.path)) (some (" / ".intercalate d.labels))

end Formwork.Record
