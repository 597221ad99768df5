import Formwork.Text.Case

/-!
Comparing letters without regard to case.
-/
namespace Formwork.Text

/-- How far letters of different case count as one. -/
inductive Fold
  | exact
  | ascii
  | unicode
  deriving DecidableEq, Repr

/-- Lower-case letters that share an upper case. -/
def sharedUpper : List (List Nat) :=
  [[105, 305], [115, 383], [181, 956], [837, 953, 8126], [912, 8147], [944, 8163], [946, 976],
   [949, 1013], [952, 977], [954, 1008], [960, 982], [961, 1009], [962, 963], [966, 981],
   [1074, 7296], [1076, 7297], [1086, 7298], [1089, 7299], [1090, 7300, 7301], [1098, 7302],
   [1123, 7303], [7304, 42571], [7777, 7835], [64261, 64262]]

def asciiLower (n : Nat) : Nat := if 65 ≤ n ∧ n ≤ 90 then n + 32 else n

/-- The one lower-case letter of a code point. -/
def unicodeLower (n : Nat) : Nat :=
  if n < 128 then asciiLower n
  else if n = 304 then 105
  else CaseRun.apply lowerRuns n

namespace Fold

def lower : Fold → Nat → Nat
  | .exact, n => n
  | .ascii, n => asciiLower n
  | .unicode, n => unicodeLower n

/-- The lower-case letters that count as the lower-case letter `n`. -/
def variants : Fold → Nat → List Nat
  | .unicode, n => (sharedUpper.find? (·.contains n)).getD [n]
  | _, n => [n]

/-- Whether two code points count as one. -/
def same (f : Fold) (m n : Nat) : Bool :=
  if m < 128 ∧ n < 128 then
    match f with
    | .exact => m == n
    | _ => asciiLower m == asciiLower n
  else (f.variants (f.lower m)).contains (f.lower n)

/-- The code points whose lower case is `n`. -/
def sources : Fold → Nat → List Nat
  | .exact, n => [n]
  | .ascii, n =>
    (if asciiLower n = n then [n] else []) ++ (if 97 ≤ n ∧ n ≤ 122 then [n - 32] else [])
  | .unicode, n =>
    let own := if unicodeLower n = n then [n] else []
    let capital := if 97 ≤ n ∧ n ≤ 122 then [n - 32] else []
    let dotted := if n = 105 then [304] else []
    let shifted := lowerRuns.filterMap fun r =>
      let m := ((n : Int) - r.shift).toNat
      if r.first ≤ m ∧ m ≤ r.last ∧ unicodeLower m = n then some m else none
    own ++ capital ++ dotted ++ shifted

/-- Whether `n` counts as some code point from `lo` to `hi`. -/
def within (f : Fold) (lo hi n : Nat) : Bool :=
  (f.variants (f.lower n)).any fun v => (f.sources v).any fun m => lo ≤ m && m ≤ hi

end Fold

/-- The text after a leading `word`, read in any case. -/
def dropFolded? : List Char → List Char → Option (List Char)
  | [], cs => some cs
  | _ :: _, [] => none
  | w :: ws, c :: cs => if Fold.unicode.same w.toNat c.toNat then dropFolded? ws cs else none

/-- A letter that may begin a name, in any case: the dotless and the dotted i, the long s and the
Kelvin sign count as ASCII letters. -/
def beginsName (c : Char) : Bool :=
  c.isAlpha || c == '_' || c == 'ſ' || c == 'ı' || c == 'İ' || c.toNat == 0x212A

end Formwork.Text
