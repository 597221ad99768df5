import Formwork.Catalog.Source
import Formwork.Files.Access

/-!
Form descriptions in folders.
-/
namespace Formwork.Catalog
open Files

variable {m : Type → Type} [Monad m] [Access m]

/-- The form descriptions directly in a folder; without a folder there are none. -/
def readFolder (p : Path) : m (Except FileError (List Source)) := do
  if ← isFolder p then
    let names := (← Access.names p).filter isDescription
    pure ((← readAll p names).map fun files => files.map fun (name, bytes) => ⟨name, bytes⟩)
  else pure (.ok [])

end Formwork.Catalog
