import Formwork.Keyed
import Formwork.Toml.Literal

/-!
Reading TOML documents. Statements fill the tables of the document one after the other; a table is
declared once, and what was written as a value is not extended later.
-/
namespace Formwork.Toml

/-- The names of a dotted key. -/
abbrev Key := List String

abbrev Members := List (String × Datum)

/-! ### Keys and values -/

def skipSpaces (cs : List Char) : List Char := cs.dropWhile isSpace

/-- The text after a comment, which ends before a line break. -/
def skipComment (cs : List Char) : Except Fault (List Char) :=
  match cs with
  | '#' :: rest =>
    if (rest.takeWhile (· != '\n')).any isControl then malformed
    else .ok (rest.dropWhile (· != '\n'))
  | _ => .ok cs

/-- The text after white space, line breaks and comments; `fuel` bounds the number of comments. -/
def skipBlank : (fuel : Nat) → List Char → Except Fault (List Char)
  | 0, cs => .ok cs
  | fuel + 1, cs =>
    match cs.dropWhile isSpaceOrBreak with
    | '#' :: rest => do skipBlank fuel (← skipComment ('#' :: rest))
    | rest => .ok rest

def isKeyChar (c : Char) : Bool := c.isAlphanum || c == '-' || c == '_'

/-- One name of a key. -/
def keyPart (cs : List Char) : Except Fault (String × List Char) :=
  match cs with
  | '"' :: rest => do
    let (name, rest) ← basicString false 0 rest
    pure (String.ofList name, rest)
  | '\'' :: rest => do
    let (name, rest) ← literalString false ['\''] rest
    pure (String.ofList name, rest)
  | _ =>
    let name := cs.takeWhile isKeyChar
    if name.isEmpty then malformed else .ok (String.ofList name, cs.dropWhile isKeyChar)

/-- The names of a key; `fuel` bounds their number. -/
def keyFrom : (fuel : Nat) → List Char → Except Fault (Key × List Char)
  | 0, _ => malformed
  | fuel + 1, cs => do
    let (name, rest) ← keyPart cs
    match skipSpaces rest with
    | '.' :: rest => do
      let (names, rest) ← keyFrom fuel (skipSpaces rest)
      pure (name :: names, rest)
    | rest => pure ([name], rest)

def key (cs : List Char) : Except Fault (Key × List Char) := keyFrom (cs.length + 1) cs

def isFolded : Datum → Bool
  | .list _ | .table _ => true
  | _ => false

def put (k : String) (d : Datum) (ms : Members) : Members := Keyed.put Prod.fst (k, d) ms

/-- Changes the table under a key; missing tables are made on the way. With `lists`, the last table
of a list of tables stands for the list. -/
def changeTable (lists : Bool) (change : Members → Option Members) :
    Key → Members → Option Members
  | [], ms => change ms
  | k :: ks, ms =>
    match Datum.find? ms k with
    | none => (changeTable lists change ks []).map fun inner => put k (.table inner) ms
    | some (.table inner) =>
      (changeTable lists change ks inner).map fun inner => put k (.table inner) ms
    | some (.list items) =>
      match lists, items.getLast? with
      | true, some (.table inner) =>
        (changeTable lists change ks inner).map fun inner =>
          put k (.list (items.dropLast ++ [.table inner])) ms
      | _, _ => none
    | some _ => none

/-- Adds a member that is not there yet. -/
def addMember (k : String) (d : Datum) (ms : Members) : Option Members :=
  if (Datum.find? ms k).isSome then none else some (ms ++ [(k, d)])

def orMalformed {α : Type} : Option α → Except Fault α
  | some a => .ok a
  | none => malformed

/-- Whether a key leads into one of some values. -/
def leadsInto (frozen : List Key) (k : Key) : Bool := frozen.any (·.isPrefixOf k)

def lastName (k : Key) : String := k.getLast?.getD ""

mutual

/-- A value. -/
def value (fuel : Nat) (cs : List Char) : Except Fault (Datum × List Char) :=
  match fuel with
  | 0 => malformed
  | fuel + 1 =>
    match cs with
    | '[' :: rest => do
      let rest ← skipBlank rest.length rest
      match rest with
      | ']' :: rest => pure (.list [], rest)
      | rest => items fuel [] rest
    | '\x7b' :: rest =>
      match skipSpaces rest with
      | '\x7d' :: rest => pure (.table [], rest)
      | rest => members fuel [] [] rest
    | '"' :: _ => do
      let (text, rest) ← stringLiteral '"' cs
      pure (.text (String.ofList text), rest)
    | '\'' :: _ => do
      let (text, rest) ← stringLiteral '\'' cs
      pure (.text (String.ofList text), rest)
    | _ => plainLiteral cs

/-- The items of a list up to its closing bracket, after those in `before`, latest first. -/
def items (fuel : Nat) (before : List Datum) (cs : List Char) : Except Fault (Datum × List Char) :=
  match fuel with
  | 0 => malformed
  | fuel + 1 => do
    let (d, rest) ← value fuel cs
    let rest ← skipBlank rest.length rest
    match rest with
    | ']' :: rest => pure (.list (d :: before).reverse, rest)
    | ',' :: rest => do
      let rest ← skipBlank rest.length rest
      match rest with
      | ']' :: rest => pure (.list (d :: before).reverse, rest)
      | rest => items fuel (d :: before) rest
    | _ => malformed

/-- The members of a table in braces, after those in `before`; `frozen` holds the keys of the lists
and tables among them. -/
def members (fuel : Nat) (before : Members) (frozen : List Key) (cs : List Char) :
    Except Fault (Datum × List Char) :=
  match fuel with
  | 0 => malformed
  | fuel + 1 => do
    let (k, rest) ← key cs
    match rest with
    | '=' :: rest => do
      let (d, rest) ← value fuel (skipSpaces rest)
      if leadsInto frozen k then malformed
      let ms ← orMalformed (changeTable false (addMember (lastName k) d) k.dropLast before)
      match skipSpaces rest with
      | '\x7d' :: rest => pure (.table ms, rest)
      | ',' :: rest =>
        members fuel ms (if isFolded d then k :: frozen else frozen) (skipSpaces rest)
      | _ => malformed
    | _ => malformed

end

/-! ### Documents -/

/-- A document that is being read. -/
structure Draft where
  members : Members := []
  /-- The table that statements without a header of their own belong to. -/
  header : Key := []
  /-- Tables that were declared and are not declared again. -/
  declared : List Key := []
  /-- Tables that dotted keys have opened since the last header. -/
  opened : List Key := []
  /-- Lists and tables that were written as values. -/
  frozen : List Key := []

/-- Tables that dotted keys have opened count as declared from the next header on. -/
def Draft.settle (d : Draft) : Draft :=
  { d with declared := d.opened ++ d.declared, opened := [] }

/-- Declares a table. -/
def Draft.declare (d : Draft) (k : Key) : Except Fault Draft := do
  if d.declared.contains k || leadsInto d.frozen k then malformed
  let members ← orMalformed (changeTable true some k d.members)
  pure { d with members, header := k, declared := k :: d.declared }

/-- A list of tables with one more table. -/
def addTable (name : String) (ms : Members) : Option Members :=
  match Datum.find? ms name with
  | none => some (ms ++ [(name, .list [.table []])])
  | some (.list items) => some (put name (.list (items ++ [.table []])) ms)
  | some _ => none

/-- Adds a table to a list of tables; what was declared below it is forgotten. -/
def Draft.append (d : Draft) (k : Key) : Except Fault Draft := do
  if leadsInto d.frozen k then malformed
  let members ← orMalformed (changeTable true (addTable (lastName k)) k.dropLast d.members)
  pure { d with
    members
    header := k
    declared := k :: d.declared.filter fun k' => !k.isPrefixOf k'
    frozen := d.frozen.filter fun k' => !k.isPrefixOf k' }

/-- The keys of the tables that a dotted key passes through, below a header. -/
def passed (header k : Key) : List Key :=
  (List.range (k.length - 1)).map fun n => header ++ k.take (n + 1)

/-- Adds a member under a key below the current header. -/
def Draft.add (d : Draft) (k : Key) (v : Datum) : Except Fault Draft := do
  let between := passed d.header k
  if between.any d.declared.contains then malformed
  let parent := d.header ++ k.dropLast
  if leadsInto d.frozen parent then malformed
  let members ← orMalformed (changeTable true (addMember (lastName k) v) parent d.members)
  pure { d with
    members
    opened := between ++ d.opened
    frozen := if isFolded v then (d.header ++ k) :: d.frozen else d.frozen }

/-- The text after the closing brackets of a header. -/
def closeHeader (close : List Char) (rest : List Char) : Except Fault (List Char) :=
  if close.isPrefixOf rest then .ok (rest.drop close.length) else malformed

/-- Reads one statement. -/
def Draft.statement (d : Draft) (cs : List Char) : Except Fault (Draft × List Char) :=
  match cs with
  | '[' :: '[' :: rest => do
    let (k, rest) ← key (skipSpaces rest)
    let d ← d.settle.append k
    pure (d, ← closeHeader [']', ']'] rest)
  | '[' :: rest => do
    let (k, rest) ← key (skipSpaces rest)
    let d ← d.settle.declare k
    pure (d, ← closeHeader [']'] rest)
  | '#' :: _ => .ok (d, cs)
  | _ => do
    let (k, rest) ← key cs
    match rest with
    | '=' :: rest => do
      let (v, rest) ← value (2 * rest.length + 2) (skipSpaces rest)
      pure (← d.add k v, rest)
    | _ => malformed

/-- Reads statements, each on a line of its own; `fuel` bounds the number of lines. -/
def Draft.statements (fuel : Nat) (d : Draft) (cs : List Char) : Except Fault Draft :=
  match fuel with
  | 0 => .ok d
  | fuel + 1 =>
    match skipSpaces cs with
    | [] => .ok d
    | '\n' :: rest => d.statements fuel rest
    | cs => do
      let (d, rest) ← d.statement cs
      match ← skipComment (skipSpaces rest) with
      | [] => pure d
      | '\n' :: rest => d.statements fuel rest
      | _ => malformed

/-- Reads a document. -/
def read (text : List Char) : Except Fault Members := do
  let d ← Draft.statements (text.length + 1) {} text
  pure d.members

end Formwork.Toml
