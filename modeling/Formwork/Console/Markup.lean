import Formwork.Text.Blank
import Formwork.Text.Case

/-!
Markup of console texts. A word in brackets opens a style, and one that begins with a slash closes
it; on a terminal without colours nothing of them is shown. A backslash before a bracket lets it
stand for itself.
-/
namespace Formwork.Console
open Formwork.Text

/-- A closing tag without its opening one. -/
structure MarkupError where
  deriving DecidableEq, Repr

def opensTag (c : Char) : Bool := c.isLower || c == '#' || c == '/' || c == '@'

/-- The inside of a tag, after its opening bracket, and the text after its closing one. -/
def tagAt? (cs : List Char) : Option (List Char × List Char) :=
  match cs with
  | c :: _ =>
    if opensTag c then
      let inside := cs.takeWhile fun d => d != ']' && d != '['
      match cs.drop inside.length with
      | ']' :: rest => some (inside, rest)
      | _ => none
    else none
  | [] => none

/-- A piece of a text: characters that are shown, or a tag. -/
inductive Piece
  | shown (cs : List Char)
  | tag (inside : List Char)
  deriving DecidableEq, Repr

/-- The pieces of a text; the first `skip` characters belong to a piece that was read already. A
tag after an odd number of backslashes is shown without the last of them, and every other pair of
backslashes before a tag is shown as one. -/
def piecesOf (skip : Nat) : List Char → List Piece
  | [] => []
  | c :: cs =>
    match skip with
    | s + 1 => piecesOf s cs
    | 0 =>
      let slashes := ((c :: cs).takeWhile (· == '\\')).length
      match (c :: cs).drop slashes with
      | '[' :: rest =>
        match tagAt? rest with
        | some (inside, _) =>
          let size := slashes + inside.length + 2
          let kept : List Piece :=
            if slashes / 2 = 0 then [] else [.shown (List.replicate (slashes / 2) '\\')]
          let tag : Piece :=
            if slashes % 2 = 0 then .tag inside else .shown ('[' :: inside ++ [']'])
          kept ++ tag :: piecesOf (size - 1) cs
        | none => .shown ((c :: cs).take (slashes + 1)) :: piecesOf slashes cs
      | _ => .shown ((c :: cs).take (max slashes 1)) :: piecesOf (slashes - 1) cs

/-- The name of a style: what stands before an equals sign, without white space, in lower case. -/
def styleName (inside : List Char) : List Char :=
  lower (strip (inside.takeWhile (· != '=')))

/-- The open styles without the latest one of a name. -/
def closeStyle? (name : List Char) : List (List Char) → Option (List (List Char))
  | [] => none
  | s :: styles =>
    if s = name then some styles else (closeStyle? name styles).map (s :: ·)

/-- The styles that are open after a tag, the latest first. -/
def afterTag (styles : List (List Char)) (inside : List Char) :
    Except MarkupError (List (List Char)) :=
  match inside with
  | '/' :: rest =>
    let name := styleName rest
    let left := if name.isEmpty then styles.tail? else closeStyle? name styles
    match left with
    | some styles => .ok styles
    | none => .error {}
  | _ => .ok (styleName inside :: styles)

/-- A backslash before a bracket is dropped. -/
def bareBrackets : List Char → List Char
  | '\\' :: '[' :: cs => '[' :: bareBrackets cs
  | c :: cs => c :: bareBrackets cs
  | [] => []

/-- The characters that are shown of some pieces. -/
def shownFrom (styles : List (List Char)) : List Piece → Except MarkupError (List Char)
  | [] => .ok []
  | .shown cs :: ps => do pure (bareBrackets cs ++ (← shownFrom styles ps))
  | .tag inside :: ps => do shownFrom (← afterTag styles inside) ps

/-- Control characters that are not shown: bell, backspace, vertical tab, form feed and return. -/
def isDropped (c : Char) : Bool := [7, 8, 11, 12, 13].contains c.toNat

/-- What is shown of a text with markup. -/
def plainText (markup : String) : Except MarkupError (List Char) := do
  pure ((← shownFrom [] (piecesOf 0 markup.toList)).filter (!isDropped ·))

/-- A text with backslashes before its brackets, wherever they would make a tag. -/
def escapeFrom (slashes skip : Nat) : List Char → List Char
  | [] => []
  | c :: cs =>
    match skip with
    | s + 1 => c :: escapeFrom 0 s cs
    | 0 =>
      if c = '\\' then c :: escapeFrom (slashes + 1) 0 cs
      else
        match c, tagAt? cs with
        | '[', some (inside, _) =>
          List.replicate slashes '\\' ++ '\\' :: '[' :: escapeFrom 0 (inside.length + 1) cs
        | _, _ => c :: escapeFrom 0 0 cs

/-- A text that is shown as it stands, whatever brackets it holds. -/
def escape (text : String) : String :=
  let cs := escapeFrom 0 0 text.toList
  let slashes := (cs.reverse.takeWhile (· == '\\')).length
  String.ofList (if slashes = 1 then cs ++ ['\\'] else cs)

end Formwork.Console
