import Formwork.Idl.Declaration
import Formwork.Keyed

/-!
Documents: the messages, the enumerations and the file options of a form description.
-/
namespace Formwork.Idl
open Formwork.Text Formwork.Pattern

/-- A message type with its fields in order. -/
structure Message where
  name : String
  fields : List FieldDecl
  deriving DecidableEq, Repr

/-- An enumeration type with its choices in order. -/
structure Enumeration where
  name : String
  choices : List Choice
  deriving DecidableEq, Repr

/-- What a form description declares, each part a table by names. -/
structure Document where
  messages : List (String × Message)
  enumerations : List (String × Enumeration)
  options : List (String × String)
  deriving DecidableEq, Repr

/-- The message types of a text, nested ones included. -/
def messageTable (text : List Char) : Except Fault (List (String × Message)) := do
  let found ← (blocks "message" text).mapM fun b => do
    let fields ← (statements b.body).mapM FieldDecl.ofStatement?
    let name := String.ofList b.name
    pure (name, { name, fields := fields.filterMap id : Message })
  pure (Keyed.table found)

/-- The enumeration types of a text, nested ones included. -/
def enumerationTable (text : List Char) : List (String × Enumeration) :=
  Keyed.table <| (blocks "enum" text).map fun b =>
    let name := String.ofList b.name
    (name, { name, choices := (statements b.body).filterMap Choice.ofStatement? })

/-- The key and the value of a file option declaration at the front of a line. -/
def fileOption? (code : List Char) : Option (String × String) := do
  let rest ← (dropWord? "option".toList code).bind dropBlanks?
  let (name, rest) ← typeName? (dropOptional '(' rest)
  match stripLeft (dropOptional ')' rest) with
  | '=' :: rest =>
    let (value, rest) ← quotedText? (stripLeft rest)
    match stripLeft rest with
    | ';' :: _ => some (String.ofList (localName name), String.ofList value)
    | _ => none
  | _ => none

/-- The file options declared outside every block, one at the front of a line; keys lose their
qualifiers. -/
def fileOptions (text : List Char) : List (String × String) :=
  let top := removeInnerBlocks (stripBlockComments text)
  Keyed.table <| (pieces (· == '\n') top).filterMap fun l => fileOption? (splitLineComment l).1

/-- Reads a form description. Only an annotated pattern can make this fail. -/
def Document.read (text : List Char) : Except Fault Document := do
  let clean := stripBlockComments text
  pure {
    messages := ← messageTable clean
    enumerations := enumerationTable clean
    options := fileOptions clean }

end Formwork.Idl
