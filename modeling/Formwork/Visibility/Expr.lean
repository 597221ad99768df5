import Formwork.Value.Display
import Formwork.Value.Order

/-!
Visibility conditions and their evaluation against the values of a record.
-/
namespace Formwork.Visibility

inductive CompareOp
  | eq
  | ne
  | order (relation : Relation)
  deriving DecidableEq, Repr

def CompareOp.text : CompareOp → String
  | .eq => "=="
  | .ne => "!="
  | .order .lt => "<"
  | .order .gt => ">"
  | .order .le => "<="
  | .order .ge => ">="

def CompareOp.all : List CompareOp :=
  [.eq, .ne, .order .lt, .order .gt, .order .le, .order .ge]

inductive LogicalOp
  | and
  | or
  deriving DecidableEq, Repr

def LogicalOp.text : LogicalOp → String
  | .and => "and"
  | .or => "or"

inductive Expr
  | literal (value : Value)
  /-- A path of keys into the values. -/
  | field (path : List String)
  | compare (op : CompareOp) (left right : Expr)
  /-- A chain of two or more operands. -/
  | logical (op : LogicalOp) (operands : List Expr)
  | not (operand : Expr)
  | member (value : Expr) (items : List Expr) (negated : Bool)
  | isNull (value : Expr) (negated : Bool)
  deriving Repr

/-- Two values without an order were to be ordered. -/
structure Incomparable where
  left : String
  right : String
  deriving DecidableEq, Repr

def Incomparable.message (e : Incomparable) : String := s!"Cannot compare {e.left} with {e.right}"

/-- The value at the end of a path; null where a step is missing. -/
def follow : List String → Value → Value
  | [], v => v
  | key :: path, .object members =>
    match Value.find? members key with
    | some v => follow path v
    | none => .null
  | _ :: _, _ => .null

/-- Compares two values; nothing is before or after null. -/
def CompareOp.apply (op : CompareOp) (left right : Value) : Except Incomparable Bool :=
  match op with
  | .eq => .ok (left.equal right)
  | .ne => .ok (!left.equal right)
  | .order r =>
    if left.isNull || right.isNull then .ok false
    else match Value.relate? r left right with
      | some b => .ok b
      | none => .error ⟨left.kindName, right.kindName⟩

/-- The operand that decides a chain: the first that counts as false for `and`, the first that
counts as true for `or`. -/
def LogicalOp.decidedBy (op : LogicalOp) (v : Value) : Bool :=
  match op with
  | .and => !v.truth
  | .or => v.truth

mutual

/-- The value of a condition. -/
def eval (values : Value) : Expr → Except Incomparable Value
  | .literal v => .ok v
  | .field path => .ok (follow path values)
  | .not e => do pure (.bool !(← eval values e).truth)
  | .logical op es => evalChain values op es
  | .compare op a b => do
    let left ← eval values a
    let right ← eval values b
    pure (.bool (← op.apply left right))
  | .member e items negated => do
    let v ← eval values e
    let vs ← evalAll values items
    pure (.bool (vs.any (Value.same v) != negated))
  | .isNull e negated => do pure (.bool ((← eval values e).isNull != negated))

/-- The operand that decides a chain, or the last one. -/
def evalChain (values : Value) (op : LogicalOp) : List Expr → Except Incomparable Value
  | [] => .ok .null
  | [e] => eval values e
  | e :: es => do
    let v ← eval values e
    if op.decidedBy v then pure v else evalChain values op es

def evalAll (values : Value) : List Expr → Except Incomparable (List Value)
  | [] => .ok []
  | e :: es => do pure ((← eval values e) :: (← evalAll values es))

end

end Formwork.Visibility
