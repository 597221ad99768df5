import Formwork.Keyed
import Formwork.Number.Binary
import Formwork.Value.Basic

/-!
JSON Schema documents (draft 2020-12), as far as forms need them: a node is a list of keywords in
the order in which they are written and tried.
-/
namespace Formwork.JsonSchema

/-- The types of JSON values that nodes ask for. -/
inductive TypeName
  | string
  | number
  | boolean
  | array
  | object
  deriving DecidableEq, Repr

def TypeName.text : TypeName → String
  | .string => "string"
  | .number => "number"
  | .boolean => "boolean"
  | .array => "array"
  | .object => "object"

/-- Whether a value has a type; the truth values are no numbers. -/
def TypeName.fits : TypeName → Value → Bool
  | .string, .text _ => true
  | .number, .int _ | .number, .float _ => true
  | .boolean, .bool _ => true
  | .array, .list _ => true
  | .object, .object _ => true
  | _, _ => false

/-- What a limit is about. -/
inductive Limit
  | minLength
  | maxLength
  | minItems
  | maxItems
  | minimum
  | maximum
  deriving DecidableEq, Repr

def Limit.text : Limit → String
  | .minLength => "minLength"
  | .maxLength => "maxLength"
  | .minItems => "minItems"
  | .maxItems => "maxItems"
  | .minimum => "minimum"
  | .maximum => "maximum"

/-- A limit is a number without fraction wherever it can be written so. -/
inductive Bound
  | whole (n : Int)
  | real (x : Binary64)
  deriving DecidableEq, Repr

namespace Bound

def toValue : Bound → Value
  | .whole n => .int n
  | .real x => .float x

def quantity : Bound → Quantity
  | .whole n => .ofInt n
  | .real x => x.quantity

def ofFloat (x : Binary64) : Bound :=
  match x.toInt? with
  | some n => .whole n
  | none => .real x

end Bound

inductive Keyword
  | dialect (uri : String)
  | title (text : String)
  /-- One of some types; a single one is written without a list. -/
  | type (names : List TypeName)
  | options (values : List String)
  | items (node : List Keyword)
  | properties (nodes : List (String × List Keyword))
  | required (keys : List String)
  /-- No other properties. -/
  | closed
  | limit (which : Limit) (bound : Bound)
  | pattern (text : String)

abbrev Node := List Keyword

/-- The word that a keyword is written with. -/
def Keyword.word : Keyword → String
  | .dialect _ => "$schema"
  | .title _ => "title"
  | .type _ => "type"
  | .options _ => "enum"
  | .items _ => "items"
  | .properties _ => "properties"
  | .required _ => "required"
  | .closed => "additionalProperties"
  | .limit which _ => which.text
  | .pattern _ => "pattern"

namespace Node

/-- A node with a keyword set; one of the same word is replaced in its place. -/
def put (k : Keyword) (node : Node) : Node := Keyed.put Keyword.word k node

def has (word : String) (node : Node) : Bool := node.any (·.word == word)

end Node

def typeValue : List TypeName → Value
  | [t] => .text t.text
  | ts => .list (ts.map fun t => .text t.text)

mutual

/-- The document that a node is written as. -/
def nodeValue : List Keyword → List (String × Value)
  | [] => []
  | k :: ks => (k.word, keywordValue k) :: nodeValue ks

def keywordValue : Keyword → Value
  | .dialect uri => .text uri
  | .title text => .text text
  | .type names => typeValue names
  | .options values => .list (values.map .text)
  | .items node => .object (nodeValue node)
  | .properties nodes => .object (propertyValues nodes)
  | .required keys => .list (keys.map .text)
  | .closed => .bool false
  | .limit _ bound => bound.toValue
  | .pattern text => .text text

def propertyValues : List (String × List Keyword) → List (String × Value)
  | [] => []
  | (k, node) :: rest => (k, .object (nodeValue node)) :: propertyValues rest

end

def Node.toValue (node : Node) : Value := .object (nodeValue node)

end Formwork.JsonSchema
