import Formwork.Text.Blank

/-!
Paths of files: names with slashes between them.
-/
namespace Formwork.Files
open Formwork.Text

/-- A path. Its root is empty for a path that starts from the folder at hand; names that are empty
or a single point are not kept. -/
structure Path where
  root : String := ""
  names : List String := []
  deriving DecidableEq, Repr

namespace Path

/-- The root that a text begins with: two slashes are a root of their own, three are one. -/
def rootOf : List Char → String
  | '/' :: '/' :: '/' :: _ => "/"
  | '/' :: '/' :: _ => "//"
  | '/' :: _ => "/"
  | _ => ""

def ofText (text : String) : Path :=
  let cs := text.toList
  let names := (pieces (· == '/') cs).filter fun p => !p.isEmpty && p != ['.']
  ⟨rootOf cs, names.map String.ofList⟩

def text (p : Path) : String :=
  if p.root.isEmpty && p.names.isEmpty then "." else p.root ++ "/".intercalate p.names

def isAbsolute (p : Path) : Bool := !p.root.isEmpty

/-- A path seen from another one. -/
def join (base p : Path) : Path :=
  if p.isAbsolute then p else { base with names := base.names ++ p.names }

/-- The path to the folder that holds what a path leads to. -/
def parent (p : Path) : Path := { p with names := p.names.dropLast }

/-- The last name of a path. -/
def name (p : Path) : String := p.names.getLast?.getD ""

/-- The names with every step up taken back; no step leads above the root. -/
def collapse : List String → List String :=
  List.foldl (fun names n => if n = ".." then names.dropLast else names ++ [n]) []

/-- The absolute path without steps up that a path stands for in the folder `home`. -/
def resolve (p home : Path) : Path :=
  let full := home.join p
  { full with names := collapse full.names }

/-- A path and all paths above it, the longest first. -/
def selfAndParents (p : Path) : List Path :=
  (List.range (p.names.length + 1)).reverse.map fun n => { p with names := p.names.take n }

end Path

end Formwork.Files
