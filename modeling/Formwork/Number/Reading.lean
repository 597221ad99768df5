import Formwork.Number.Decimal
import Formwork.Text.Blank

/-!
Reading numbers from free text: white space around them, digits of any script, single underscores
between digits, and the words for the infinities and for no number.
-/
namespace Formwork.Decimal
open Formwork.Text

/-- A digit of any script as an ASCII digit. -/
def asciiDigit (c : Char) : Char :=
  match digitValue? c with
  | some d => Char.ofNat (48 + d)
  | none => c

/-- White space that may surround a number. -/
def isPadding (c : Char) : Bool := isBlank c && !(28 ≤ c.toNat && c.toNat ≤ 31)

/-- The text without underscores; `none` when one does not stand between digits. -/
def dropUnderscores : Bool → List Char → Option (List Char)
  | _, [] => some []
  | afterDigit, '_' :: cs =>
    if afterDigit && cs.head?.any Char.isDigit then dropUnderscores false cs else none
  | _, c :: cs => (dropUnderscores c.isDigit cs).map (c :: ·)

/-- The number that a text spells. -/
def read? (text : List Char) : Option Binary64 := do
  let trim (cs : List Char) := (cs.dropWhile isPadding).reverse
  let cs ← dropUnderscores false ((trim (trim text)).map asciiDigit)
  let (negative, cs) := match cs with
    | '-' :: rest => (true, rest)
    | '+' :: rest => (false, rest)
    | rest => (false, rest)
  let word := String.ofList (cs.map Char.toLower)
  if word = "inf" ∨ word = "infinity" then some (.infinite negative)
  else if word = "nan" then some (.nan 0)
  else unsigned? negative cs

end Formwork.Decimal
