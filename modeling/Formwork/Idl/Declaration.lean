import Formwork.Idl.Annotation
import Formwork.Idl.Block
import Formwork.Idl.Statement

/-!
Declarations of fields and of enumeration members, read from statements.
-/
namespace Formwork.Idl
open Formwork.Text Formwork.Pattern

/-- A declared field. Its type is a local name, without qualifiers. -/
structure FieldDecl where
  name : String
  type : String
  repeated : Bool := false
  info : FieldMeta := {}
  deriving DecidableEq, Repr

/-- A choice: what is shown and what is stored. -/
structure Choice where
  label : String
  value : String
  deriving DecidableEq, Repr

/-- The end of a declaration: blanks, and a semicolon at the end or before a final line feed. -/
def isTerminator (cs : List Char) : Bool :=
  match stripLeft cs with
  | [';'] | [';', '\n'] => true
  | _ => false

/-- The text without a line feed at its end. -/
def dropFinalLineFeed (cs : List Char) : List Char :=
  if cs.getLast? = some '\n' then cs.dropLast else cs

/-- An option list on one line, from its opening bracket on, and the end of the declaration. -/
def closesOptions (cs : List Char) : Bool :=
  match (dropFinalLineFeed cs).reverse with
  | ';' :: rest =>
    match rest.dropWhile isBlank with
    | ']' :: content => !content.isEmpty && content.all (· != '\n')
    | _ => false
  | _ => false

/-- An equals sign, a number, an option list or none, and the end of the declaration. -/
def isNumbering (cs : List Char) : Bool :=
  match stripLeft cs with
  | '=' :: rest =>
    let digits := stripLeft rest
    digits.head?.any isDigit &&
      match stripLeft (digits.dropWhile isDigit) with
      | '[' :: options => closesOptions ('[' :: options)
      | rest => isTerminator rest
  | _ => false

/-- A type name: an ASCII letter or underscore, then word characters and dots. -/
def typeName? : List Char → Option (List Char × List Char)
  | [] => none
  | c :: cs =>
    let inType (d : Char) := isWord d || d == '.'
    if isNameStart c then some (c :: cs.takeWhile inType, cs.dropWhile inType) else none

/-- The type and the name of a field declaration. -/
def typeAndName? (cs : List Char) : Option (List Char × List Char) := do
  let (type, rest) ← typeName? cs
  let (name, rest) ← identifier? (← dropBlanks? rest)
  if isNumbering rest then some (type, name) else none

/-- Whether a field declaration is repeated, its type and its name. A leading `repeated` is a type
name only where the declaration makes no sense otherwise. -/
def fieldHeader? (text : List Char) : Option (Bool × List Char × List Char) :=
  (((dropWord? "repeated".toList text).bind dropBlanks?).bind typeAndName?).map (true, ·)
    |>.orElse fun _ => (typeAndName? text).map (false, ·)

/-- The text after the last dot. -/
def localName (cs : List Char) : List Char := ((pieces (· == '.') cs).getLast?).getD []

/-- What several comments say together. -/
def commentsMeta (comments : List (List Char)) : Except Fault FieldMeta :=
  comments.foldlM (fun info c => do pure (info.merge (← commentMeta c))) {}

/-- The field that a statement declares; `none` when it declares none. -/
def FieldDecl.ofStatement? (s : Statement) : Except Fault (Option FieldDecl) :=
  match fieldHeader? s.text with
  | none => pure none
  | some (repeated, type, name) => do
    let leading ← commentsMeta s.leading
    let trailing ← commentsMeta s.trailing
    let options ← optionMeta (optionList s.text)
    pure (some {
      name := String.ofList name
      type := String.ofList (localName type)
      repeated
      info := (leading.merge trailing).merge options })

/-- The name of an enumeration member: capitals, digits and underscores, begun by a capital. -/
def memberName? : List Char → Option (List Char × List Char)
  | [] => none
  | c :: cs =>
    let inName (d : Char) := d.isUpper || d.isDigit || d == '_'
    if c.isUpper then some (c :: cs.takeWhile inName, cs.dropWhile inName) else none

/-- The choice that a statement declares; `none` when it declares none. A member without a label is
shown by its name in words, and one without a value is stored under its name. -/
def Choice.ofStatement? (s : Statement) : Option Choice := do
  let (key, rest) ← memberName? s.text
  if isNumbering rest then
    let comments := s.leading ++ s.trailing
    let info := comments.foldl (fun (info : MemberMeta) c => info.merge (commentMemberMeta c)) {}
    let info := info.merge (optionMemberMeta (optionList s.text))
    some {
      label := info.label.getD (String.ofList (memberTitle key))
      value := info.value.getD (String.ofList key) }
  else none

end Formwork.Idl
