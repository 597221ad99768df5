import Formwork.Text.Blank
import Formwork.Text.Case
import Formwork.Text.Fold

/-!
Names and the titles made from them.
-/
namespace Formwork.Text

/-- The non-empty parts of an identifier between underscores and hyphens, each begun in upper
case. -/
def titleParts (name : List Char) : List (List Char) :=
  ((pieces (fun c => c == '_' || c == '-') name).filter (!·.isEmpty)).map capitalized

/-- The identifier in one word: `user-profile` becomes `UserProfile`. -/
def pascalCase (name : List Char) : List Char := (titleParts name).flatten

/-- The identifier as a title: `user-profile` becomes `User Profile`. -/
def titleCase (name : List Char) : List Char := joinWith [' '] (titleParts name)

def underscoresToSpaces (name : List Char) : List Char :=
  name.map fun c => if c == '_' then ' ' else c

/-- The label of a field that declares none. -/
def fieldTitle (name : List Char) : List Char := capitalized (underscoresToSpaces name)

/-- The suffix that marks the neutral member of an enumeration. -/
def neutralSuffix : List Char := "_UNSPECIFIED".toList

/-- A member name without the first neutral suffix that stands at its end, or before the line feed
at its end. -/
def dropNeutral : List Char → List Char
  | [] => []
  | c :: cs =>
    match dropFolded? neutralSuffix (c :: cs) with
    | some [] => []
    | some ['\n'] => ['\n']
    | _ => c :: dropNeutral cs

/-- The label of an enumeration member that declares none. -/
def memberTitle (key : List Char) : List Char :=
  let ws := words (lower (strip (underscoresToSpaces (dropNeutral key))))
  if ws.isEmpty then key else joinWith [' '] (ws.map capitalized)

/-- The text without one pair of equal quotes around it. -/
def unquote (cs : List Char) : List Char :=
  match cs with
  | q :: rest =>
    if (q == '"' || q == '\'') && !rest.isEmpty && rest.getLast? == some q then rest.dropLast
    else cs
  | [] => []

end Formwork.Text
