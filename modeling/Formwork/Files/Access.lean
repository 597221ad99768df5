import Formwork.Files.Path
import Formwork.Text.Quoted

/-!
Access to files, in any monad that offers it.
-/
namespace Formwork.Files
open Formwork.Text

/-- Why a file cannot be read or written. -/
inductive FileReason
  | notFound
  | exists
  | notFolder
  | isFolder
  | nameTooLong
  /-- Another reason, with its number and its text. -/
  | other (code : Nat) (text : String)
  deriving DecidableEq, Repr

namespace FileReason

def code : FileReason → Nat
  | .notFound => 2
  | .exists => 17
  | .notFolder => 20
  | .isFolder => 21
  | .nameTooLong => 36
  | .other code _ => code

def text : FileReason → String
  | .notFound => "No such file or directory"
  | .exists => "File exists"
  | .notFolder => "Not a directory"
  | .isFolder => "Is a directory"
  | .nameTooLong => "File name too long"
  | .other _ text => text

end FileReason

/-- A reason and the path that it is about. -/
structure FileError where
  reason : FileReason
  path : Path
  deriving DecidableEq, Repr

def FileError.message (e : FileError) : String :=
  let code := e.reason.code
  let text := e.reason.text
  let path := String.ofList (quoted e.path.text.toList)
  s!"[Errno {code}] {text}: {path}"

/-- What a path leads to. -/
inductive Kind
  | file
  | folder
  deriving DecidableEq, Repr

/-- Access to files. -/
class Access (m : Type → Type) where
  /-- The folder at hand, as an absolute path. -/
  home : m Path
  /-- What a path leads to, if anything. -/
  kind? : Path → m (Option Kind)
  read : Path → m (Except FileError (List UInt8))
  /-- The names of the files directly in a folder. -/
  names : Path → m (List String)
  /-- Writes a file, and makes the folders that lead to it. -/
  write : Path → List UInt8 → m (Except FileError Unit)

section
variable {m : Type → Type} [Monad m] [Access m]

def isFile (p : Path) : m Bool := do pure ((← Access.kind? p) == some .file)

def isFolder (p : Path) : m Bool := do pure ((← Access.kind? p) == some .folder)

/-- The contents of files in a folder, each with its name. -/
def readAll (folder : Path) : List String → m (Except FileError (List (String × List UInt8)))
  | [] => pure (.ok [])
  | n :: names => do
    match ← Access.read (folder.join ⟨"", [n]⟩) with
    | .error e => pure (.error e)
    | .ok bytes => do
      match ← readAll folder names with
      | .error e => pure (.error e)
      | .ok rest => pure (.ok ((n, bytes) :: rest))

end

end Formwork.Files
