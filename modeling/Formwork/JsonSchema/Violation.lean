import Formwork.JsonSchema.Node
import Formwork.Pattern.Match
import Formwork.Pattern.Reader
import Formwork.Record.Defect
import Formwork.Value.Display

/-!
Checking records against JSON Schema documents. Every violation is told, in the order in which the
keywords of the document stand.
-/
namespace Formwork.JsonSchema
open Formwork.Record

/-- What is wrong with a value. -/
inductive Fault
  | notOfType (value : Value) (names : List TypeName)
  | notOneOf (value : Value) (options : List String)
  | missing (key : String)
  | unexpected (keys : List String)
  | beyond (value : Value) (which : Limit) (bound : Bound)
  | mismatch (value : String) (pattern : String)

/-- What a value beyond a limit is; the limits that ask for something or for nothing at all have
words of their own. -/
def Limit.complaint (which : Limit) (bound : Bound) : String :=
  match which with
  | .minLength | .minItems =>
    if bound.quantity.eq (.ofInt 1) then "should be non-empty" else "is too short"
  | .maxLength | .maxItems =>
    if bound.quantity.eq (.ofInt 0) then "is expected to be empty" else "is too long"
  | .minimum => "is less than the minimum of " ++ bound.toValue.display
  | .maximum => "is greater than the maximum of " ++ bound.toValue.display

namespace Fault

def message : Fault → String
  | .notOfType v names =>
    v.display ++ " is not of type " ++
      Value.commaSeparated (names.map fun n => Value.quotedText n.text)
  | .notOneOf v values =>
    v.display ++ " is not one of " ++ (Value.list (values.map .text)).display
  | .missing key => Value.quotedText key ++ " is a required property"
  | .unexpected keys =>
    let verb := if keys.length = 1 then "was" else "were"
    "Additional properties are not allowed (" ++ Value.commaSeparated (keys.map Value.quotedText) ++
      " " ++ verb ++ " unexpected)"
  | .beyond v which bound => v.display ++ " " ++ which.complaint bound
  | .mismatch s p => Value.quotedText s ++ " does not match " ++ Value.quotedText p

end Fault

/-- A fault and the path to the value that has it. -/
structure Violation where
  path : List Step
  fault : Fault

namespace Violation

def stepText : Step → String
  | .key k => k
  | .index i => toString i

/-- The message, led by the path with points between its steps. -/
def message (v : Violation) : String :=
  let path := ".".intercalate (v.path.map stepText)
  if path.isEmpty then v.fault.message else path ++ ": " ++ v.fault.message

/-- A violation of a part, seen from the whole. -/
def below (s : Step) (v : Violation) : Violation := { v with path := s :: v.path }

end Violation

/-- What a limit measures of a value, where it applies. -/
def Limit.measure? (which : Limit) (v : Value) : Option Quantity :=
  match which, v with
  | .minLength, .text s | .maxLength, .text s => some (.ofInt s.length)
  | .minItems, .list items | .maxItems, .list items => some (.ofInt items.length)
  | .minimum, .int n | .maximum, .int n => some (.ofInt n)
  | .minimum, .float x | .maximum, .float x => some x.quantity
  | _, _ => none

/-- Whether a quantity respects a limit. -/
def Limit.admits (which : Limit) (bound : Bound) (q : Quantity) : Bool :=
  match which with
  | .minLength | .minItems | .minimum => !q.lt bound.quantity
  | .maxLength | .maxItems | .maximum => !bound.quantity.lt q

/-- Whether a value is a text that does not show a pattern. -/
def mismatches (p : String) : Value → Bool
  | .text s =>
    match Pattern.read p.toList with
    | .ok node => !node.foundIn s.toList
    | .error _ => false
  | _ => false

/-- The keys of an object that are none of the properties, sorted. -/
def extraKeys (properties : List String) : Value → List String
  | .object ms => ((ms.map (·.1)).filter (!properties.contains ·)).mergeSort (· ≤ ·)
  | _ => []

/-- The properties that a node describes. -/
def Node.propertyKeys (node : Node) : List String :=
  node.findSome? (fun
    | .properties ps => some (ps.map (·.1))
    | _ => none) |>.getD []

def when (b : Bool) (fault : Fault) : List Violation := if b then [⟨[], fault⟩] else []

mutual

/-- The violations of a node by a value; `properties` are the keys that the whole node describes. -/
def violations (properties : List String) (v : Value) : List Keyword → List Violation
  | [] => []
  | k :: ks => keywordViolations properties v k ++ violations properties v ks

def keywordViolations (properties : List String) (v : Value) : Keyword → List Violation
  | .dialect _ | .title _ => []
  | .type names => when (!names.any (·.fits v)) (.notOfType v names)
  | .options values =>
    when (!(v.text?.any values.contains)) (.notOneOf v values)
  | .items node =>
    match v with
    | .list items =>
      items.zipIdx.flatMap fun (item, i) =>
        (violations (Node.propertyKeys node) item node).map (.below (.index i))
    | _ => []
  | .properties nodes =>
    match v with
    | .object members => propertyViolations members nodes
    | _ => []
  | .required keys =>
    match v with
    | .object members =>
      keys.flatMap fun key => when ((Value.find? members key).isNone) (.missing key)
    | _ => []
  | .closed =>
    let extra := extraKeys properties v
    when (!extra.isEmpty) (.unexpected extra)
  | .limit which bound =>
    match which.measure? v with
    | some q => when (!which.admits bound q) (.beyond v which bound)
    | none => []
  | .pattern p => when (mismatches p v) (.mismatch (v.text?.getD "") p)

def propertyViolations (members : List (String × Value)) :
    List (String × List Keyword) → List Violation
  | [] => []
  | (key, node) :: rest =>
    (match Value.find? members key with
    | some v => (violations (Node.propertyKeys node) v node).map (.below (.key key))
    | none => []) ++ propertyViolations members rest

end

/-- The violations of a document by a value. -/
def Node.violations (node : Node) (v : Value) : List Violation :=
  JsonSchema.violations node.propertyKeys v node

end Formwork.JsonSchema
