import Formwork.Number.Decimal
import Formwork.Text.Quoted
import Formwork.Value.Basic

/-!
Writing values as JSON text.
-/
namespace Formwork.Value
open Formwork.Text

/-- A character inside a JSON string; only quotes, backslashes and control characters are
escaped. -/
def jsonChar (c : Char) : List Char :=
  if c == '"' then ['\\', '"']
  else if c == '\\' then ['\\', '\\']
  else if c == '\n' then ['\\', 'n']
  else if c == '\r' then ['\\', 'r']
  else if c == '\t' then ['\\', 't']
  else if c.toNat == 8 then ['\\', 'b']
  else if c.toNat == 12 then ['\\', 'f']
  else if c.toNat < 32 then '\\' :: 'u' :: hexDigits 4 c.toNat
  else [c]

def jsonText (s : String) : String :=
  String.ofList ('"' :: s.toList.flatMap jsonChar ++ ['"'])

/-- A number as JSON text; the infinities and a value that is no number have words. -/
def jsonFloat : Binary64 → String
  | .nan _ => "NaN"
  | .infinite negative => if negative then "-Infinity" else "Infinity"
  | x => Decimal.write x

/-- How the parts of lists and objects are set apart: on one line, or each on a line of its own,
indented by `step` for every level. -/
inductive Spread
  | line
  | block (step : Nat)
  deriving DecidableEq, Repr

/-- Parts between brackets at a level. -/
def Spread.enclose (s : Spread) (level : Nat) (opening closing : String) (parts : List String) :
    String :=
  match s with
  | .line => opening ++ String.intercalate ", " parts ++ closing
  | .block step =>
    if parts.isEmpty then opening ++ closing
    else
      let fresh (n : Nat) := "\n" ++ String.ofList (List.replicate (n * step) ' ')
      opening ++ fresh (level + 1) ++ String.intercalate ("," ++ fresh (level + 1)) parts ++
        fresh level ++ closing

mutual

def writeAt (s : Spread) (level : Nat) : Value → String
  | .null => "null"
  | .bool b => if b then "true" else "false"
  | .int n => toString n
  | .float x => jsonFloat x
  | .text t => jsonText t
  | .list items => s.enclose level "[" "]" (writeItems s (level + 1) items)
  | .object members => s.enclose level "\x7b" "\x7d" (writeMembers s (level + 1) members)

def writeItems (s : Spread) (level : Nat) : List Value → List String
  | [] => []
  | v :: vs => writeAt s level v :: writeItems s level vs

def writeMembers (s : Spread) (level : Nat) : List (String × Value) → List String
  | [] => []
  | (k, v) :: ms => (jsonText k ++ ": " ++ writeAt s level v) :: writeMembers s level ms

end

/-- The JSON text of a value. -/
def write (s : Spread) (v : Value) : String := writeAt s 0 v

end Formwork.Value
