import Formwork.Command.Run
import Std.Time.DateTime.Timestamp

/-!
The command line program.
-/
namespace Formwork
open Files

/-- The reason that an error of the system stands for. -/
def fileReason : IO.Error → FileReason
  | .noFileOrDirectory .. | .noSuchThing .. => .notFound
  | .alreadyExists .. => .exists
  | .inappropriateType .. => .isFolder
  | .permissionDenied .. => .other 13 "Permission denied"
  | e => .other 5 (toString e)

/-- The result of an action, or why it failed. -/
def attempt {α : Type} (p : Path) (action : IO α) : IO (Except FileError α) := do
  match ← action.toBaseIO with
  | .ok a => pure (.ok a)
  | .error e => pure (.error ⟨fileReason e, p⟩)

/-- What a path leads to. -/
def kindOf (p : Path) : IO (Option Kind) := do
  match ← (IO.FS.realPath p.text).toBaseIO with
  | .error _ => pure none
  | .ok place =>
    match ← place.metadata.toBaseIO with
    | .error _ => pure none
    | .ok info =>
      match info.type with
      | .dir => pure (some .folder)
      | .file => pure (some .file)
      | _ => pure none

/-- The names of the files directly in a folder. -/
def namesIn (p : Path) : IO (List String) := do
  let place ← IO.FS.realPath p.text
  let found ← place.readDir
  let files ← found.toList.filterM fun entry => do
    pure ((← kindOf (p.join (.ofText entry.fileName))) == some .file)
  pure (files.map (·.fileName))

instance : Access IO where
  home := do pure (.ofText (toString (← IO.currentDir)))
  kind? := kindOf
  read p := attempt p do pure (← IO.FS.readBinFile p.text).toList
  names := namesIn
  write p bytes := attempt p do
    IO.FS.createDirAll p.parent.text
    IO.FS.writeBinFile p.text ⟨bytes.toArray⟩

/-- The moment at hand. -/
def currentMoment : IO Moment := do
  let now ← Std.Time.Timestamp.now
  pure (.ofSeconds now.toSecondsSinceUnixEpoch.val.toNat)

/-- The width of a terminal that does not tell its own. -/
def defaultWidth : Nat := 80

/-- The width of the terminal, as the environment tells it. -/
def terminalWidth : IO Nat := do
  match (← IO.getEnv "COLUMNS").bind String.toNat? with
  | some n => pure n
  | none => pure defaultWidth

end Formwork

open Formwork in
def main (args : List String) : IO UInt32 := do
  let result ← Command.runLine args (← currentMoment)
  let outcome := result.outcome (← terminalWidth)
  IO.print outcome.output
  IO.eprint outcome.errors
  pure outcome.code.toUInt32
