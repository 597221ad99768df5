/-!
Double-precision numbers as exact data, their order, and rounding to the nearest of them.
-/
namespace Formwork

/-- A double-precision number. A finite one is its significand times a power of two; in the numbers
made here the significand is below 2^53, and below 2^52 only with the exponent -1074. A value that
is no number carries a mark that tells separately read ones apart. -/
inductive Binary64
  | finite (negative : Bool) (significand : Nat) (exponent : Int)
  | infinite (negative : Bool)
  | nan (mark : Nat)
  deriving DecidableEq, Repr

/-- The exact value of a number: a whole multiple of a power of two, an infinity, or none. -/
inductive Quantity
  | finite (mantissa : Int) (exponent : Int)
  | infinite (negative : Bool)
  | none
  deriving DecidableEq, Repr

namespace Quantity

def ofInt (n : Int) : Quantity := .finite n 0

/-- How two quantities compare, if they do. -/
def compare? : Quantity → Quantity → Option Ordering
  | .none, _ | _, .none => Option.none
  | .infinite m, .infinite n => some (compare n m)
  | .infinite m, .finite _ _ => some (if m then .lt else .gt)
  | .finite _ _, .infinite n => some (if n then .gt else .lt)
  | .finite a e, .finite b f =>
    let low := min e f
    some (compare (a * Nat.pow 2 (e - low).toNat) (b * Nat.pow 2 (f - low).toNat))

def eq (a b : Quantity) : Bool := compare? a b == some .eq

def lt (a b : Quantity) : Bool := compare? a b == some .lt

end Quantity

namespace Binary64

def zero (negative : Bool) : Binary64 := .finite negative 0 (-1074)

def quantity : Binary64 → Quantity
  | .finite negative m e => .finite (if negative then -m else m) e
  | .infinite negative => .infinite negative
  | .nan _ => .none

/-- Every number but the zeros counts as true, and so does a value that is no number. -/
def isZero : Binary64 → Bool
  | .finite _ m _ => m == 0
  | _ => false

/-- The whole number that a finite number without fractional part is. -/
def toInt? : Binary64 → Option Int
  | .finite negative m e =>
    let whole : Option Nat :=
      if 0 ≤ e then some (m * Nat.pow 2 e.toNat)
      else if m % Nat.pow 2 (-e).toNat = 0 then some (m / Nat.pow 2 (-e).toNat) else none
    whole.map fun n => if negative then -n else n
  | _ => none

/-- The quotient rounded to the nearest whole number; a tie goes to the even one. -/
def roundedQuotient (num den : Nat) : Nat :=
  let q := num / den
  let r := num % den
  if 2 * r < den then q
  else if den < 2 * r then q + 1
  else if q % 2 = 0 then q else q + 1

/-- The number nearest to the quotient of two whole numbers. -/
def ofRatio (negative : Bool) (num den : Nat) : Binary64 :=
  if num = 0 then zero negative
  else
    let scaled (e : Int) : Nat × Nat :=
      if 0 ≤ e then (num, den * Nat.pow 2 e.toNat) else (num * Nat.pow 2 (-e).toNat, den)
    let low : Int := (num.log2 : Int) - den.log2 - 53
    let (n, d) := scaled low
    let e := max (-1074) (if n / d < Nat.pow 2 53 then low else low + 1)
    let (n, d) := scaled e
    let m := roundedQuotient n d
    let (m, e) := if m = Nat.pow 2 53 then (Nat.pow 2 52, e + 1) else (m, e)
    if 971 < e then .infinite negative else .finite negative m e

/-- The number nearest to `digits` times a power of ten. -/
def ofDecimal (negative : Bool) (digits : Nat) (exponent : Int) : Binary64 :=
  let size : Int := (digits.log2 : Int) * 3 / 10
  if digits = 0 then zero negative
  else if 310 < size + exponent then .infinite negative
  else if size + size / 50 + exponent < -400 then zero negative
  else if 0 ≤ exponent then ofRatio negative (digits * Nat.pow 10 exponent.toNat) 1
  else ofRatio negative digits (Nat.pow 10 (-exponent).toNat)

end Binary64

end Formwork
