import Formwork.Catalog.Source
import Formwork.Form.Wire
import Formwork.Store.Basic

/-!
Bringing a store in step with a folder of form descriptions: every description is compiled and
written, and the other forms of the same apps are removed. A file that cannot be read or compiled,
or that has no root message, is passed over.
-/
namespace Formwork.Store
open Formwork.Catalog

structure SyncedForm where
  app : String
  form : String
  version : String
  deriving DecidableEq, Repr

/-- What became of the files. -/
structure Report where
  synced : List SyncedForm := []
  failed : List (String × SourceError) := []
  /-- Apps without a root message. -/
  skipped : List String := []
  removed : Nat := 0

def Report.isClean (r : Report) : Bool := r.failed.isEmpty

/-- A store that is being brought in step. -/
structure Progress where
  store : Store
  report : Report := {}
  notices : List Notice := []

/-- The members of a stored form. -/
def formMembers (f : Form) : List (String × Value) :=
  match f.toValue with
  | .object ms => ms
  | _ => []

/-- Compiles a description for a tenant. -/
def compileSource (tenant : String) (config : CompilerConfig) (now : Moment) (s : Source) :
    Except SourceError (Option Form × List Notice) := do
  (compile (← s.text) s.app config ⟨.published, some tenant, now⟩).mapError .pattern

/-- Compiles one description and writes its form. -/
def Progress.take (tenant : String) (config : CompilerConfig) (now : Moment) (p : Progress)
    (s : Source) : Progress :=
  match compileSource tenant config now s with
  | .error e =>
    { p with
      report := { p.report with failed := p.report.failed ++ [(s.name, e)] }
      notices := p.notices ++ [.syncFailed s.name e.message] }
  | .ok (none, told) =>
    { p with
      report := { p.report with skipped := p.report.skipped ++ [s.app] }
      notices := p.notices ++ told }
  | .ok (some form, told) =>
    let (store, _) :=
      p.store.upsert ⟨tenant, s.app, form.name⟩ form.version .published (formMembers form) now
    { store
      report := { p.report with
        synced := p.report.synced ++ [⟨s.app, form.name, form.version⟩] }
      notices := p.notices ++ told ++ [.synced s.app form.name form.version] }

/-- Removes the forms of an app that were not synced. -/
def Progress.prune (tenant : String) (p : Progress) (app : String) : Progress :=
  let forms := (p.report.synced.filter (·.app == app)).map (·.form)
  let (store, removed) := p.store.keepOnly tenant app forms
  { store
    report := { p.report with removed := p.report.removed + removed.length }
    notices := p.notices ++ removalNotices tenant app removed }

/-- Brings the store in step with the files of a folder. -/
def sync (store : Store) (files : List Source) (tenant : String) (config : CompilerConfig)
    (now : Moment) : Progress :=
  let taken := (descriptions files).foldl (Progress.take tenant config now) { store }
  ((taken.report.synced.map (·.app)).eraseDups).foldl (Progress.prune tenant) taken

end Formwork.Store
