import Formwork.Value.Basic

/-!
The order of values. Numbers compare by quantity, texts by their characters, lists by their first
difference; other values have no order.
-/
namespace Formwork

/-- The four ways to ask for an order. -/
inductive Relation
  | lt
  | gt
  | le
  | ge
  deriving DecidableEq, Repr

namespace Relation

/-- What the relation says of two things that compare in some way, or in none. -/
def ofOrdering (r : Relation) : Option Ordering → Bool
  | none => false
  | some o =>
    match r with
    | .lt => o == .lt
    | .gt => o == .gt
    | .le => o != .gt
    | .ge => o != .lt

end Relation

namespace Value

mutual

/-- Whether a relation holds between two values; `none` when they have no order. -/
def relate? (r : Relation) : Value → Value → Option Bool
  | .text s, .text t => some (r.ofOrdering (some (compare s t)))
  | .list xs, .list ys => relateItems? r xs ys
  | a, b =>
    match a.quantity?, b.quantity? with
    | some p, some q => some (r.ofOrdering (p.compare? q))
    | _, _ => none

/-- Lists compare by their first items that are not the same, or else by length. -/
def relateItems? (r : Relation) : List Value → List Value → Option Bool
  | [], [] => some (r.ofOrdering (some .eq))
  | [], _ :: _ => some (r.ofOrdering (some .lt))
  | _ :: _, [] => some (r.ofOrdering (some .gt))
  | x :: xs, y :: ys => if same x y then relateItems? r xs ys else relate? r x y

end

end Value

end Formwork
