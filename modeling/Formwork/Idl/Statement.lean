import Formwork.Idl.Scan

/-!
Statements: the declarations of a block body, each with the comments that belong to it.

A comment on a line of its own stands above the next declaration, or beside the one that has begun.
A comment after code stands beside the statement in which its line ends.
-/
namespace Formwork.Idl
open Formwork.Text

/-- A declaration up to its semicolon, with its lines joined by single spaces, the comments above
it and the comments beside it. -/
structure Statement where
  text : List Char
  leading : List (List Char)
  trailing : List (List Char)
  deriving DecidableEq, Repr

/-- What is known between two lines: the code of a statement that has begun, and the comments that
wait for their statement. -/
structure Unfinished where
  code : List Char := []
  leading : List (List Char) := []
  trailing : List (List Char) := []
  deriving DecidableEq, Repr

/-- Statements that declare no field and no member of their own. -/
def isPassedOver (text : List Char) : Bool :=
  "reserved ".toList.isPrefixOf text || "oneof ".toList.isPrefixOf text

/-- The statements that are completed on one line. The first takes the comments that wait, and the
last also takes `comment`, the comment of the line. -/
def attach (leading trailing comment : List (List Char)) : List (List Char) → List Statement
  | [] => []
  | [text] => [⟨text, leading, trailing ++ comment⟩]
  | text :: more => ⟨text, leading, trailing⟩ :: attach [] [] comment more

/-- The comment of a line, if it has one. -/
def commentList (comment : List Char) : List (List Char) := if comment.isEmpty then [] else [comment]

/-- Reads one line: the statements that it completes, and what is known after it. -/
def Unfinished.line (u : Unfinished) (raw : List Char) : List Statement × Unfinished :=
  let (code, comment) := splitLineComment raw
  let comments := commentList comment
  if code.isEmpty then
    if u.code.isEmpty then ([], { u with leading := u.leading ++ comments })
    else ([], { u with trailing := u.trailing ++ comments })
  else
    let joined := if u.code.isEmpty then code else u.code ++ ' ' :: code
    let (complete, rest) := splitStatements joined
    let own := if rest.isEmpty then comments else []
    let waiting := if rest.isEmpty then [] else comments
    match complete with
    | [] => ([], { u with code := rest, trailing := u.trailing ++ waiting })
    | _ => (attach u.leading u.trailing own complete, ⟨rest, [], waiting⟩)

/-- The statements of the lines after `u`. -/
def Unfinished.lines (u : Unfinished) : List (List Char) → List Statement
  | [] => []
  | l :: ls => (u.line l).1 ++ (u.line l).2.lines ls

/-- The declarations of a block body, nested blocks left out. -/
def statements (body : List Char) : List Statement :=
  (({} : Unfinished).lines (pieces (· == '\n') (removeInnerBlocks body))).filter
    (!isPassedOver ·.text)

end Formwork.Idl
