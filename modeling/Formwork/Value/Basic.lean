import Formwork.Keyed
import Formwork.Number.Binary

/-!
Values of records: the values of JSON, with whole numbers and double-precision numbers apart and
the members of objects in order.
-/
namespace Formwork

inductive Value
  | null
  | bool (b : Bool)
  | int (n : Int)
  | float (x : Binary64)
  | text (s : String)
  | list (items : List Value)
  | object (members : List (String × Value))
  deriving Repr

namespace Value

/-- The value of the first member with a key. -/
def find? (members : List (String × Value)) (key : String) : Option Value := members.lookup key

/-- The value under a key, or null. -/
def get (members : List (String × Value)) (key : String) : Value := (find? members key).getD .null

/-- The members with one set to a value; a new one comes last. -/
def put (key : String) (value : Value) (members : List (String × Value)) : List (String × Value) :=
  Keyed.put Prod.fst (key, value) members

def isNull : Value → Bool
  | .null => true
  | _ => false

def text? : Value → Option String
  | .text s => some s
  | _ => none

/-- Whether a value counts as true: null, false, zero and everything empty does not. -/
def truth : Value → Bool
  | .null => false
  | .bool b => b
  | .int n => n != 0
  | .float x => !x.isZero
  | .text s => !s.isEmpty
  | .list items => !items.isEmpty
  | .object members => !members.isEmpty

/-- The quantity of a number; the truth values count as one and zero. -/
def quantity? : Value → Option Quantity
  | .bool b => some (.ofInt (if b then 1 else 0))
  | .int n => some (.ofInt n)
  | .float x => some x.quantity
  | _ => none

mutual

/-- Whether two values are one and the same or equal: numbers by quantity, lists and objects by
their parts, objects in any order of members. A value that is no number is the same as itself
only. -/
def same : Value → Value → Bool
  | .null, .null => true
  | .text s, .text t => s == t
  | .float (.nan m), .float (.nan n) => m == n
  | .list xs, .list ys => sameItems xs ys
  | .object ms, .object ns => ms.length == ns.length && sameMembers ms ns
  | a, b =>
    match a.quantity?, b.quantity? with
    | some p, some q => p.eq q
    | _, _ => false

def sameItems : List Value → List Value → Bool
  | [], [] => true
  | x :: xs, y :: ys => same x y && sameItems xs ys
  | _, _ => false

/-- Whether every member has its like among `others`. -/
def sameMembers : List (String × Value) → (others : List (String × Value)) → Bool
  | [], _ => true
  | (k, v) :: ms, ns =>
    (match find? ns k with
    | some w => same v w
    | none => false) && sameMembers ms ns

end

/-- Whether two values are equal; a value that is no number equals nothing. -/
def equal : Value → Value → Bool
  | .float (.nan _), .float (.nan _) => false
  | a, b => same a b

end Value

end Formwork
