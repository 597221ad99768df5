import Formwork.Idl.Scan
import Formwork.Text.Word

/-!
Blocks: a keyword, a name and a body between braces.
-/
namespace Formwork.Idl
open Formwork.Text

/-- A named block; `start` is the position of its keyword. -/
structure Block where
  name : List Char
  body : List Char
  start : Nat
  deriving DecidableEq, Repr

/-- The text after `word`, if the text begins with it. -/
def dropWord? : List Char → List Char → Option (List Char)
  | [], cs => some cs
  | _ :: _, [] => none
  | w :: ws, c :: cs => if w = c then dropWord? ws cs else none

/-- The text after a non-empty run of white space. -/
def dropBlanks? : List Char → Option (List Char)
  | [] => none
  | c :: cs => if isBlank c then some (stripLeft cs) else none

/-- An identifier at the front of a text: an ASCII letter or underscore, then word characters. -/
def identifier? : List Char → Option (List Char × List Char)
  | [] => none
  | c :: cs =>
    if isNameStart c then some (c :: cs.takeWhile isWord, cs.dropWhile isWord) else none

/-- The block header at the front of a text: its name and the text from the opening brace on. -/
def header? (keyword text : List Char) : Option (List Char × List Char) := do
  let rest ← dropWord? keyword text
  let rest ← dropBlanks? rest
  let (name, rest) ← identifier? rest
  match stripLeft rest with
  | '{' :: body => some (name, '{' :: body)
  | _ => none

/-- The header that begins at `c`: its name and the number of characters before its brace. A word
begins or ends there; `afterWord` tells whether a word character stands before `c`. -/
def headerAt? (keyword : List Char) (afterWord : Bool) (c : Char) (cs : List Marked) :
    Option (List Char × Nat) :=
  if afterWord = isWord c ∨ keyword.head?.any (· ≠ c) then none
  else (header? keyword (c :: cs.map (·.1))).map fun (name, body) =>
    (name, cs.length + 1 - body.length)

/-- The blocks whose headers begin in the marked text. `position` is where the text stands in the
source, `afterWord` tells whether a word character precedes it, and the next `skip` characters
belong to a header that was read already. -/
def blocksFrom (keyword : List Char) (position : Nat) (afterWord : Bool) (skip : Nat) :
    List Marked → List Block
  | [] => []
  | (c, l) :: cs =>
    match skip with
    | s + 1 => blocksFrom keyword (position + 1) (isWord c) s cs
    | 0 =>
      match headerAt? keyword afterWord c cs with
      | none => blocksFrom keyword (position + 1) (isWord c) 0 cs
      | some (name, length) =>
        let braced := ((c, l) :: cs).drop length
        let found :=
          match if l = .code then matchingBraceFrom 0 braced else none with
          | some n => [{ name, body := ((braced.take n).drop 1).map (·.1), start := position }]
          | none => []
        found ++ blocksFrom keyword (position + 1) (isWord c) length cs

/-- Every block that a keyword opens, nested ones included, in the order of their headers. A block
that is never closed is left out, and the search goes on after its header. -/
def blocks (keyword : String) (text : List Char) : List Block :=
  blocksFrom keyword.toList 0 false 0 (mark text)

end Formwork.Idl
