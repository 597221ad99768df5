import Formwork.Catalog.Source

/-!
The catalog of apps, and the manifest that holds every app with its form.
-/
namespace Formwork.Catalog
open Formwork.Idl Formwork.Text

structure App where
  id : String
  name : String
  description : String
  file : String
  deriving DecidableEq, Repr

def App.toValue (a : App) : Value :=
  .object [("appId", .text a.id), ("name", .text a.name), ("description", .text a.description),
    ("protoFile", .text a.file)]

/-- A file option, unless it is empty. -/
def filledOption (options : List (String × String)) (key : String) : Option String :=
  (options.lookup key).filter (!·.isEmpty)

/-- The app of a file by its options; a name is made from the file's name, and a description from
the name where `describe` is given it. -/
def App.ofOptions (s : Source) (options : List (String × String)) (describe : String → String) :
    App :=
  let name := (filledOption options "app_name").getD (String.ofList (titleCase s.app.toList))
  ⟨s.app, name, (filledOption options "app_description").getD (describe name), s.name⟩

/-- The app that a file describes by its options alone. -/
def Source.toApp (s : Source) : Except SourceError App := do
  pure (.ofOptions s (fileOptions (← s.text)) fun name => name ++ " application")

/-- The apps of a folder. -/
def apps (files : List Source) : Except SourceError (List App) :=
  (descriptions files).mapM Source.toApp

/-! ### Manifests -/

/-- An app with its compiled form. -/
structure Entry where
  app : App
  form : CompiledForm

/-- The entry of a file; `none` where it has no root message. -/
def Source.toEntry (s : Source) (config : CompilerConfig) : Except SourceError (Option Entry) := do
  let d ← (Document.read (← s.text)).mapError .pattern
  let (compiled, _) := Document.compile d s.app config
  let app := App.ofOptions s d.options fun _ => "Generated from " ++ s.name
  pure (compiled.map (⟨app, ·⟩))

/-- Whether a name begins with one of some texts. -/
def isSkipped (prefixes : List String) (name : String) : Bool :=
  prefixes.any fun p => p.toList.isPrefixOf name.toList

/-- The entries of a folder, without the files that are to be skipped. -/
def entries (files : List Source) (prefixes : List String) (config : CompilerConfig) :
    Except SourceError (List Entry) := do
  let found ← ((descriptions files).filter fun s => !isSkipped prefixes s.name).mapM
    (·.toEntry config)
  pure (found.filterMap id)

/-- The form of an entry as manifests hold it. -/
def Entry.formValue (e : Entry) (version : String) : Value :=
  let name := e.form.root.name
  .object [("_id", .text ("generated-" ++ e.app.id ++ "-" ++ name)), ("appId", .text e.app.id),
    ("formName", .text name), ("version", .text version),
    ("status", .text FormStatus.published.name),
    ("schema", .object [("fields", .list (ResolvedField.toValues e.form.fields))])]

/-- The manifest of some entries: the apps sorted by their ids, and for each id the form of its
last entry. -/
def manifest (entries : List Entry) (version : String) : Value :=
  let apps := (entries.map (·.app)).mergeSort fun a b => a.id ≤ b.id
  .object [("apps", .list (apps.map App.toValue)),
    ("formsByApp", .object (Keyed.table (entries.map fun e => (e.app.id, .list [e.formValue version]))))]

end Formwork.Catalog
