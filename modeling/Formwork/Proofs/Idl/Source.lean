import Formwork.Idl.Document
import Formwork.Proofs.Idl.Outline
import Formwork.Proofs.Idl.Search

/-!
Written form descriptions: a document with the nesting of its blocks and the numbers of its
declarations, and the text that it is written as, one declaration a line.
-/
namespace Formwork.Idl
open Formwork.Text Formwork.Pattern

/-- The entry that sets a text, if there is one. -/
def textEntry (key : String) (value : Option String) : List Entry :=
  match value with
  | some s => [.text key s.toList]
  | none => []

/-- The entry that sets a truth value, if there is one. -/
def truthEntry (key : String) (value : Option Bool) : List Entry :=
  match value with
  | some b => [.truth key b]
  | none => []

/-- The entries that set what is set. -/
def FieldMeta.entries (info : FieldMeta) : List Entry :=
  textEntry "ui_label" info.label ++ (truthEntry "ui_required" info.required ++
    (textEntry "ui_pattern" info.pattern ++ (truthEntry "ui_list" info.listVisible ++
      (truthEntry "ui_unique" info.uniqueKey ++ textEntry "ui_widget" info.widget))))

/-- The entries that set what is set. -/
def MemberMeta.entries (info : MemberMeta) : List Entry :=
  textEntry "ui_enum_label" info.label ++ textEntry "ui_enum_value" info.value

/-- An option list in brackets; nothing for the empty list. -/
def brackets (es : List Entry) : List Char :=
  if es.isEmpty then [] else ' ' :: '[' :: (writeEntries es ++ [']'])

/-- A number and an option list, behind an equals sign. -/
def numbering (number : Nat) (es : List Entry) : List Char :=
  ' ' :: '=' :: ' ' :: (Nat.toDigits 10 number ++ brackets es)

/-- A field with its number. -/
structure SourceField where
  decl : FieldDecl
  number : Nat

/-- A member of an enumeration with its number. -/
structure SourceMember where
  name : String
  info : MemberMeta
  number : Nat

/-- What stands in a block. -/
inductive Item
  | field (field : SourceField)
  | message (name : String) (items : List Item)
  | enumeration (name : String) (members : List SourceMember)

/-- A form description: file options, and below them blocks. -/
structure Source where
  options : List (String × String)
  items : List Item

/-! ### The text -/

/-- A word and what follows it. -/
def headed (word : String) (rest : List Char) : List Char := word.toList ++ ' ' :: rest

/-- The declaration of a field without its semicolon. -/
def SourceField.write (f : SourceField) : List Char :=
  let declared :=
    headed f.decl.type (f.decl.name.toList ++ numbering f.number f.decl.info.entries)
  if f.decl.repeated then headed "repeated" declared else declared

/-- The declaration of a member without its semicolon. -/
def SourceMember.write (m : SourceMember) : List Char :=
  m.name.toList ++ numbering m.number m.info.entries

/-- The declaration of a file option without its semicolon. -/
def writeOption (option : String × String) : List Char :=
  headed "option" (keyed option.1 (literal option.2.toList))

def indent (depth : Nat) : List Char := List.replicate (2 * depth) ' '

/-- A declaration on a line of its own. -/
def lineOf (depth : Nat) (declaration : List Char) : List Char :=
  indent depth ++ (declaration ++ [';', '\n'])

/-- A block around the lines of its body. -/
def blockOf (depth : Nat) (keyword name : String) (body : List Char) : List Char :=
  indent depth ++ (front keyword.toList name.toList ++
    '{' :: '\n' :: (body ++ (indent depth ++ ['}', '\n'])))

mutual

/-- The lines of an item. -/
def Item.write (depth : Nat) : Item → List Char
  | .field f => lineOf depth f.write
  | .message name items => blockOf depth "message" name (writeItems (depth + 1) items)
  | .enumeration name members =>
    blockOf depth "enum" name (members.flatMap fun m => lineOf (depth + 1) m.write)

/-- The lines of items. -/
def writeItems (depth : Nat) : List Item → List Char
  | [] => []
  | i :: is => i.write depth ++ writeItems depth is

end

/-- The text of a form description. -/
def Source.write (s : Source) : List Char :=
  s.options.flatMap (fun o => lineOf 0 (writeOption o)) ++ writeItems 0 s.items

/-! ### The document -/

/-- The choice that a member stands for. -/
def SourceMember.choice (m : SourceMember) : Choice where
  label := m.info.label.getD (String.ofList (memberTitle m.name.toList))
  value := m.info.value.getD m.name

/-- The field that an item declares in the block around it. -/
def Item.field? : Item → Option SourceField
  | .field f => some f
  | _ => none

mutual

/-- The message types of an item with their fields, in the order of their headers. -/
def Item.messages : Item → List (String × List SourceField)
  | .message name items => (name, items.filterMap Item.field?) :: messagesOf items
  | _ => []

/-- The message types of items with their fields, in the order of their headers. -/
def messagesOf : List Item → List (String × List SourceField)
  | [] => []
  | i :: is => i.messages ++ messagesOf is

end

mutual

/-- The enumeration types of an item with their members, in the order of their headers. -/
def Item.enumerations : Item → List (String × List SourceMember)
  | .field _ => []
  | .message _ items => enumerationsOf items
  | .enumeration name members => [(name, members)]

/-- The enumeration types of items with their members, in the order of their headers. -/
def enumerationsOf : List Item → List (String × List SourceMember)
  | [] => []
  | i :: is => i.enumerations ++ enumerationsOf is

end

/-- The document that a form description declares. -/
def Source.document (s : Source) : Document where
  messages := (messagesOf s.items).map fun (name, fields) =>
    (name, { name, fields := fields.map (·.decl) })
  enumerations := (enumerationsOf s.items).map fun (name, members) =>
    (name, { name, choices := members.map (·.choice) })
  options := s.options

/-! ### Well-formed descriptions -/

/-- A text of an entry has one line. -/
def Entry.OneLine : Entry → Prop
  | .text _ s => '\n' ∉ s
  | .truth _ _ => True

instance : (e : Entry) → Decidable e.OneLine
  | .text _ s => inferInstanceAs (Decidable ('\n' ∉ s))
  | .truth _ _ => inferInstanceAs (Decidable True)

/-- The name of a member: a capital, then capitals, digits and underscores. -/
def IsMemberName : List Char → Prop
  | [] => False
  | c :: cs => c.isUpper = true ∧ ∀ d ∈ cs, (d.isUpper || d.isDigit || d == '_') = true

instance : (n : List Char) → Decidable (IsMemberName n)
  | [] => inferInstanceAs (Decidable False)
  | c :: cs => inferInstanceAs (Decidable (c.isUpper = true ∧
      ∀ d ∈ cs, (d.isUpper || d.isDigit || d == '_') = true))

structure SourceField.Valid (f : SourceField) : Prop where
  name : IsName f.decl.name.toList
  type : IsName f.decl.type.toList
  /-- The words begin statements that declare no field. -/
  keyword : f.decl.repeated = true ∨ f.decl.type ≠ "reserved" ∧ f.decl.type ≠ "oneof"
  info : ∀ e ∈ f.decl.info.entries, e.OneLine

structure SourceMember.Valid (m : SourceMember) : Prop where
  name : IsMemberName m.name.toList
  info : ∀ e ∈ m.info.entries, e.OneLine

mutual

def Item.Valid : Item → Prop
  | .field f => f.Valid
  | .message name items => IsName name.toList ∧ ItemsValid items
  | .enumeration name members => IsName name.toList ∧ ∀ m ∈ members, m.Valid

def ItemsValid : List Item → Prop
  | [] => True
  | i :: is => i.Valid ∧ ItemsValid is

end

structure Source.Valid (s : Source) : Prop where
  items : ItemsValid s.items
  /-- Fields stand in messages. -/
  topLevel : s.items.filterMap Item.field? = []
  messagesNodup : ((messagesOf s.items).map (·.1)).Nodup
  enumerationsNodup : ((enumerationsOf s.items).map (·.1)).Nodup
  keys : ∀ o ∈ s.options, IsName o.1.toList
  keysNodup : (s.options.map (·.1)).Nodup
  values : ∀ o ∈ s.options, '\n' ∉ o.2.toList

end Formwork.Idl
