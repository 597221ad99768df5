import Formwork.Console.Cell
import Formwork.Text.Blank

/-!
Breaking text into lines that fit a width. Lines break between words; a word that no line has room
for is cut, or left to be cut where it is shown.
-/
namespace Formwork.Console
open Formwork.Text

/-- What becomes of a word that no line has room for. -/
inductive Overflow
  /-- It goes on in the next line. -/
  | fold
  /-- An ellipsis takes the place of what has no room. -/
  | ellipsis
  deriving DecidableEq, Repr

/-- The words of a line, each with the white space after it; the first one has also the white space
before it. -/
def spacedWords (fuel : Nat) (cs : List Char) : List (List Char) :=
  match fuel with
  | 0 => []
  | fuel + 1 =>
    let before := cs.takeWhile isBlank
    let rest := cs.dropWhile isBlank
    let word := rest.takeWhile (!isBlank ·)
    let rest := rest.dropWhile (!isBlank ·)
    if word.isEmpty then []
    else (before ++ word ++ rest.takeWhile isBlank) :: spacedWords fuel (rest.dropWhile isBlank)

/-- The points where a line breaks, ascending. `start` is where the words at hand begin, and `used`
how many cells of the current line are taken. -/
def breaksFrom (overflow : Overflow) (room start used : Nat) : List (List Char) → List Nat
  | [] => []
  | word :: words =>
    let size := width (stripRight word)
    let next := start + word.length
    let breakHere : List Nat := if start = 0 then [] else [start]
    if size ≤ room - used then breaksFrom overflow room next (used + width word) words
    else if room < size then
      match overflow with
      | .fold =>
        let parts := chopFrom room 0 word
        let starts := parts.dropLast.foldl (fun (points, at_) p => (points ++ [at_ + p.length], at_ + p.length))
          (([] : List Nat), start)
        breakHere ++ starts.1 ++
          breaksFrom overflow room next (width (parts.getLast?.getD [])) words
      | .ellipsis => breakHere ++ breaksFrom overflow room next (width word) words
    else if 0 < used && 0 < start then
      breakHere ++ breaksFrom overflow room next (width word) words
    else breaksFrom overflow room next used words

/-- A text cut at some ascending points; `start` is where it begins. -/
def cutAt (start : Nat) (cs : List Char) : List Nat → List (List Char)
  | [] => [cs]
  | n :: points => cs.take (n - start) :: cutAt n (cs.drop (n - start)) points

/-- A line without the white space at its end that goes beyond the room. -/
def trimEnd (room : Nat) (line : List Char) : List Char :=
  let blank := line.length - (stripRight line).length
  line.take (line.length - min blank (line.length - room))

/-- A line that fits. -/
def truncate (overflow : Overflow) (room : Nat) (line : List Char) : List Char :=
  if width line ≤ room then line
  else match overflow with
    | .fold => fitFrom room line
    | .ellipsis => fitFrom (room - 1) line ++ ['…']

/-- Spaces in place of tabs, up to the next of the stops that stand eight cells apart. -/
def expandTabs (at_ : Nat) : List Char → List Char
  | [] => []
  | '\t' :: cs =>
    let n := 8 - at_ % 8
    List.replicate n ' ' ++ expandTabs (at_ + n) cs
  | c :: cs => c :: expandTabs (at_ + cells c) cs

/-- The lines that a line is broken into. -/
def wrapLine (overflow : Overflow) (room : Nat) (line : List Char) : List (List Char) :=
  let line := expandTabs 0 line
  let words := spacedWords (line.length + 1) line
  (cutAt 0 line (breaksFrom overflow room 0 0 words)).map (trimEnd room)

/-- The lines that a text is broken into. -/
def wrap (overflow : Overflow) (room : Nat) (text : List Char) : List (List Char) :=
  ((pieces (· == '\n') text).flatMap (wrapLine overflow room)).map (truncate overflow room)

/-- A line with spaces after it up to a width. -/
def padRight (room : Nat) (line : List Char) : List Char :=
  line ++ List.replicate (room - width line) ' '

/-- A line in the middle of a width. -/
def centre (room : Nat) (line : List Char) : List Char :=
  let line := stripRight line
  let left := (room - width line) / 2
  padRight room (List.replicate left ' ' ++ line)

end Formwork.Console
