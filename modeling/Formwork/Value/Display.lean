import Formwork.Number.Decimal
import Formwork.Text.Blank
import Formwork.Text.Quoted
import Formwork.Value.Basic

/-!
The display text of a value, as messages show it.
-/
namespace Formwork.Value
open Formwork.Text

def quotedText (s : String) : String := String.ofList (quoted s.toList)

def commaSeparated (parts : List String) : String := String.intercalate ", " parts

mutual

/-- A value as messages show it: texts in quotes, lists in brackets, objects in braces. -/
def display : Value → String
  | .null => "None"
  | .bool b => if b then "True" else "False"
  | .int n => toString n
  | .float x => Decimal.write x
  | .text s => quotedText s
  | .list items => "[" ++ commaSeparated (displayItems items) ++ "]"
  | .object members => "\x7b" ++ commaSeparated (displayMembers members) ++ "\x7d"

def displayItems : List Value → List String
  | [] => []
  | v :: vs => display v :: displayItems vs

def displayMembers : List (String × Value) → List String
  | [] => []
  | (k, v) :: ms => (quotedText k ++ ": " ++ display v) :: displayMembers ms

end

/-- A value as running text: a text stands for itself. -/
def plain : Value → String
  | .text s => s
  | v => v.display

/-- The name of a value's kind, as messages show it. -/
def kindName : Value → String
  | .null => "NoneType"
  | .bool _ => "bool"
  | .int _ => "int"
  | .float _ => "float"
  | .text _ => "str"
  | .list _ => "list"
  | .object _ => "dict"

end Formwork.Value
