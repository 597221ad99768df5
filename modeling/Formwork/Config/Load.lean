import Formwork.Config.Basic
import Formwork.Files.Access
import Formwork.Text.Bytes
import Formwork.Toml.Reader

/-!
Finding and reading the file of the settings.
-/
namespace Formwork.Config
open Files Text

/-- Why settings cannot be read. -/
inductive LoadError
  | config (error : ConfigError)
  | bytes (fault : ByteFault)
  | file (error : FileError)
  /-- A whole number in the file has too many digits. -/
  | integerTooLong

def fileName : String := "protoform.toml"

/-- The settings that the bytes of a file make. -/
def ofBytes (path : Path) (bytes : List UInt8) : Except LoadError Config := do
  let text ← (fileText bytes).mapError .bytes
  match Toml.read text with
  | .error .integerTooLong => throw .integerTooLong
  | .error .malformed => throw (.config .malformed)
  | .ok data => (ofData data (some path)).mapError .config

section
variable {m : Type → Type} [Monad m] [Access m]

/-- Reads the file of the settings; without a file the settings have their defaults. -/
def load (path : Option Path) : m (Except LoadError Config) := do
  match path with
  | none => pure (.ok {})
  | some p =>
    if ← isFile p then
      match ← Access.read p with
      | .error e => pure (.error (.file e))
      | .ok bytes => pure (ofBytes (p.resolve (← Access.home)) bytes)
    else pure (.ok {})

/-- The first of some folders that holds a file of settings. -/
def findIn : List Path → m (Option Path)
  | [] => pure none
  | folder :: folders => do
    let candidate := folder.join (.ofText fileName)
    if ← isFile candidate then pure (some candidate) else findIn folders

/-- The nearest file of settings, in a folder or one above it. -/
def find (start : Path) : m (Option Path) := do
  let start := start.resolve (← Access.home)
  let folder := if ← isFile start then start.parent else start
  findIn folder.selfAndParents

end

end Formwork.Config
