import Formwork.Number.Binary
import Formwork.Text.Digit

/-!
Decimal text of double-precision numbers: the fewest digits that read back, and reading.
-/
namespace Formwork.Decimal

/-- A decimal numeral: digits that stand for `0.d₁d₂…` times ten to the `point`. -/
structure Numeral where
  digits : List Nat
  point : Int
  deriving DecidableEq, Repr

def digitsOf (n : Nat) : List Nat := (Nat.toDigits 10 n).map fun c => c.toNat - 48

/-- The digits without zeros at the end. -/
def trimmed (digits : List Nat) : List Nat := (digits.reverse.dropWhile (· == 0)).reverse

/-- A positive number as a quotient, with the ends of the interval that rounds to it over the same
denominator; `closed` tells whether the ends round to it as well. -/
structure Interval where
  value : Nat
  low : Nat
  high : Nat
  den : Nat
  closed : Bool

/-- The interval of the reals that round to `m` times a power of two. -/
def interval (m : Nat) (e : Int) : Interval :=
  let scale := if 2 ≤ e then Nat.pow 2 (e - 2).toNat else 1
  let den := if 2 ≤ e then 1 else Nat.pow 2 (2 - e).toNat
  let gap := if m = Nat.pow 2 52 ∧ -1074 < e then 1 else 2
  { value := 4 * m * scale
    low := (4 * m - gap) * scale
    high := (4 * m + 2) * scale
    den
    closed := m % 2 = 0 }

def Interval.holds (i : Interval) (num den : Nat) : Bool :=
  if i.closed then i.low * den ≤ num * i.den && num * i.den ≤ i.high * den
  else i.low * den < num * i.den && num * i.den < i.high * den

/-- The point of the grid with step `10 ^ step` that lies in the interval nearest to its value, as a
multiple of the step. -/
def Interval.onGrid (i : Interval) (step : Int) : Option Nat :=
  let up := if 0 ≤ step then Nat.pow 10 step.toNat else 1
  let down := if 0 ≤ step then 1 else Nat.pow 10 (-step).toNat
  let below := i.value * down / (i.den * up)
  let fits (n : Nat) := i.holds (n * up) down
  let rest := 2 * (i.value * down - below * (i.den * up))
  let nearer :=
    if rest < i.den * up then below
    else if i.den * up < rest then below + 1
    else if below % 2 = 0 then below else below + 1
  let other := if nearer = below then below + 1 else below
  if fits nearer then some nearer else if fits other then some other else none

/-- The least exponent `p` with the value below `10 ^ p`, sought from `p` upward. -/
def Interval.pointFrom (i : Interval) : Nat → Int → Int
  | 0, p => p
  | fuel + 1, p =>
    let below :=
      if 0 ≤ p then i.value < i.den * Nat.pow 10 p.toNat
      else i.value * Nat.pow 10 (-p).toNat < i.den
    if below then p else i.pointFrom fuel (p + 1)

/-- The first grid, from `count` digits on, with a point in the interval. -/
def Interval.shortestFrom (i : Interval) (point : Int) : Nat → Nat → Numeral
  | 0, _ => ⟨[], point⟩
  | fuel + 1, count =>
    match i.onGrid (point - count) with
    | some n =>
      let digits := digitsOf n
      ⟨trimmed digits, point - count + digits.length⟩
    | none => i.shortestFrom point fuel (count + 1)

/-- The fewest digits that read back as `m` times a power of two, and of those the nearest. -/
def shortest (m : Nat) (e : Int) : Numeral :=
  let i := interval m e
  let guess : Int := ((m.log2 : Int) + e) * 30103 / 100000 - 1
  i.shortestFrom (i.pointFrom 5 guess) 18 1

/-- How a numeral is laid out: points after `positionalFrom` and up to `positionalTo` are written in
place, all others with an exponent. -/
structure Layout where
  positionalFrom : Int
  positionalTo : Int
  exponentDigits : Nat

/-- Numbers are written in place from 0.0001 up to below 10^16; an exponent has a sign and at least
two digits. -/
def layout : Layout := ⟨-4, 16, 2⟩

def digitChars (digits : List Nat) : List Char := digits.map fun d => Char.ofNat (48 + d)

/-- The text of a numeral. -/
def Layout.write (l : Layout) (n : Numeral) : List Char :=
  let count : Int := n.digits.length
  if l.positionalFrom < n.point ∧ n.point ≤ l.positionalTo then
    if n.point ≤ 0 then
      "0.".toList ++ List.replicate (-n.point).toNat '0' ++ digitChars n.digits
    else if count ≤ n.point then
      digitChars n.digits ++ List.replicate (n.point - count).toNat '0' ++ ".0".toList
    else
      digitChars (n.digits.take n.point.toNat) ++ '.' :: digitChars (n.digits.drop n.point.toNat)
  else
    let e := n.point - 1
    let digits := (Nat.toDigits 10 e.natAbs)
    let padded := List.replicate (l.exponentDigits - digits.length) '0' ++ digits
    let mantissa :=
      match digitChars n.digits with
      | [] => []
      | [d] => [d]
      | d :: ds => d :: '.' :: ds
    mantissa ++ 'e' :: (if e < 0 then '-' else '+') :: padded

/-- The text of a double-precision number. -/
def write : Binary64 → String
  | .nan _ => "nan"
  | .infinite negative => if negative then "-inf" else "inf"
  | .finite negative m e =>
    let sign := if negative then ['-'] else []
    let body := if m = 0 then "0.0".toList else layout.write (shortest m e)
    String.ofList (sign ++ body)

/-! ### Reading -/

def valueOf (digits : List Nat) : Nat := digits.foldl (fun n d => n * 10 + d) 0

/-- The digits at the front of a text. -/
def spanDigits : List Char → List Nat × List Char
  | [] => ([], [])
  | c :: cs =>
    if c.isDigit then
      let (ds, rest) := spanDigits cs
      ((c.toNat - 48) :: ds, rest)
    else ([], c :: cs)

/-- An exponent that takes the whole text; a numeral without one has exponent zero. -/
def exponent? : List Char → Option Int
  | [] => some 0
  | c :: cs =>
    if c = 'e' ∨ c = 'E' then
      let (negative, cs) := match cs with
        | '-' :: rest => (true, rest)
        | '+' :: rest => (false, rest)
        | rest => (false, rest)
      match spanDigits cs with
      | ([], _) => none
      | (ds, []) => some (if negative then -(valueOf ds : Int) else valueOf ds)
      | _ => none
    else none

/-- A numeral of ASCII digits with an optional fraction and exponent, without sign. -/
def unsigned? (negative : Bool) (cs : List Char) : Option Binary64 :=
  let (whole, rest) := spanDigits cs
  let (fraction, rest) := match rest with
    | '.' :: rest => spanDigits rest
    | rest => ([], rest)
  if whole.isEmpty && fraction.isEmpty then none
  else (exponent? rest).map fun e =>
    Binary64.ofDecimal negative (valueOf (whole ++ fraction)) (e - fraction.length)

end Formwork.Decimal
