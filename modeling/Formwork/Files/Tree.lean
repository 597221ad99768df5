import Formwork.Files.Access

/-!
Trees of files held in memory.
-/
namespace Formwork.Files

/-- A tree of files: its place, and its files and folders by their names from there. -/
structure Tree where
  home : Path := ⟨"/", []⟩
  files : List (List String × List UInt8) := []
  folders : List (List String) := []

namespace Tree

/-- The paths that lead to a path. -/
def ancestors (names : List String) : List (List String) :=
  (List.range names.length).map names.take

def addFolder (t : Tree) (names : List String) : Tree :=
  { t with folders := t.folders ++ ancestors names ++ [names] }

/-- Adds a file, in the place of one that is there. -/
def addFile (t : Tree) (names : List String) (bytes : List UInt8) : Tree :=
  { t with
    files := (t.files.filter (·.1 != names)) ++ [(names, bytes)]
    folders := t.folders ++ ancestors names }

def isFolder (t : Tree) (names : List String) : Bool := names.isEmpty || t.folders.contains names

/-- Follows names from a place in the tree. A step up leads back, but not above the tree. -/
def follow (t : Tree) (place : List String) : List String → Except FileReason (List String)
  | [] => if t.isFolder place || (t.files.lookup place).isSome then .ok place else .error .notFound
  | n :: names =>
    if (t.files.lookup place).isSome then .error .notFolder
    else if !t.isFolder place then .error .notFound
    else if n = ".." then
      if place.isEmpty then .error .notFound else t.follow place.dropLast names
    else if 255 < n.utf8ByteSize then .error .nameTooLong
    else t.follow (place ++ [n]) names

/-- The place in the tree that a path leads to. -/
def locate (t : Tree) (p : Path) : Except FileReason (List String) :=
  if !p.isAbsolute then t.follow [] p.names
  else if t.home.names.isPrefixOf p.names then t.follow [] (p.names.drop t.home.names.length)
  else .error .notFound

def kind? (t : Tree) (p : Path) : Option Kind :=
  match t.locate p with
  | .ok place => if (t.files.lookup place).isSome then some .file else some .folder
  | .error _ => none

def read (t : Tree) (p : Path) : Except FileError (List UInt8) :=
  match t.locate p with
  | .error reason => .error ⟨reason, p⟩
  | .ok place =>
    match t.files.lookup place with
    | some bytes => .ok bytes
    | none => .error ⟨.isFolder, p⟩

/-- The names of the files directly in a folder. -/
def namesIn (t : Tree) (p : Path) : List String :=
  match t.locate p with
  | .error _ => []
  | .ok place => t.files.filterMap fun (names, _) =>
      if names.dropLast = place then names.getLast? else none

/-- Follows the names of folders, and makes those that are missing. -/
def makeFolders (t : Tree) (place : List String) : List String →
    Except FileReason (Tree × List String)
  | [] => .ok (t.addFolder place, place)
  | n :: names =>
    if (t.files.lookup place).isSome then .error .notFolder
    else if n = ".." then
      if place.isEmpty then .error .notFound else t.makeFolders place.dropLast names
    else if 255 < n.utf8ByteSize then .error .nameTooLong
    else (t.addFolder place).makeFolders (place ++ [n]) names

def write (t : Tree) (p : Path) (bytes : List UInt8) : Except FileError Tree :=
  let below (p : Path) := if p.isAbsolute then p.names.drop t.home.names.length else p.names
  if p.isAbsolute && !t.home.names.isPrefixOf p.names then .error ⟨.notFound, p⟩
  else match t.makeFolders [] (below p.parent) with
    | .error reason => .error ⟨reason, p⟩
    | .ok (made, place) =>
      let file := place ++ [p.name]
      if (t.files.lookup place).isSome then .error ⟨.exists, p.parent⟩
      else if p.names.isEmpty || p.name = ".." || made.isFolder file then .error ⟨.isFolder, p⟩
      else .ok (made.addFile file bytes)

end Tree

instance : Access (StateM Tree) where
  home := do pure (← get).home
  kind? p := do pure ((← get).kind? p)
  read p := do pure ((← get).read p)
  names p := do pure ((← get).namesIn p)
  write p bytes := do
    match (← get).write p bytes with
    | .ok t => set t; pure (.ok ())
    | .error e => pure (.error e)

end Formwork.Files
