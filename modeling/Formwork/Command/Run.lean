import Formwork.Catalog.App
import Formwork.Catalog.Folder
import Formwork.Command.Arguments
import Formwork.Command.Outcome
import Formwork.Config.Load
import Formwork.Record.Write
import Formwork.Store.Sync

/-!
The commands: compiling a form description, validating a record, listing apps, making a manifest,
and bringing a store in step.
-/
namespace Formwork.Command
open Catalog Config Console Files Text

section
variable {m : Type → Type} [Monad m] [Access m]

def flagSpec (long : String) (short : Option Char := none) : OptionSpec := ⟨long, short, false⟩

def valueSpec (long : String) (short : Option Char := none) : OptionSpec := ⟨long, short, true⟩

def helpSpec : OptionSpec := flagSpec "--help"

/-! ### Descriptions -/

/-- Reads a text file; a result says why there is none. -/
def readText (p : Path) : m (Except Result (List Char)) := do
  match ← Access.read p with
  | .error e =>
    pure (.error (.failure ("[red]Cannot read " ++ p.text ++ ":[/red] " ++ e.message)))
  | .ok bytes => pure ((fileText bytes).mapError fun _ => .broken)

/-- The form that a file describes. -/
def compileFile (p : Path) (app : Option String) (config : Config) (now : Moment) :
    m (Except Result Form) := do
  let app := (app.filter (!·.isEmpty)).getD (appOf p.name)
  match ← readText p with
  | .error r => pure (.error r)
  | .ok text =>
    match compile text app config.compiler { now } with
    | .error _ => pure (.error .broken)
    | .ok (some form, _) => pure (.ok form)
    | .ok (none, _) =>
      pure (.error (.failure
        ("[red]No root message found in " ++ p.text ++ " (app " ++ app ++ ")[/red]")))

/-- How JSON is set out with an indentation; without one it stands on one line. -/
def spreadOf (indent : Int) : Value.Spread := if indent = 0 then .line else .block indent.toNat

def compileSpecs : List OptionSpec :=
  [helpSpec, valueSpec "--app-id" 'a', flagSpec "--runtime" 'r', valueSpec "--indent"]

/-- Shows the form that a file describes. -/
def compileCommand (g : Given) (config : Config) (now : Moment) : m Result := do
  match g.texts, ((g.value? "--indent").map wholeNumber?).getD (some 2) with
  | [file], some indent =>
    match ← compileFile (.ofText file) (g.value? "--app-id") config now with
    | .error r => pure r
    | .ok form =>
      let v := if g.has "--runtime" then form.render.toValue else form.toValue
      pure { shown := [.json v (spreadOf indent)] }
  | _, _ => pure .misused

/-! ### Records -/

/-- A text that begins like JSON stands for itself, and any other one is the path to a file. -/
def readRecordText (data : String) : m (Except Result (List Char)) := do
  match stripLeft data.toList with
  | '\x7b' :: _ | '[' :: _ => pure (.ok data.toList)
  | _ => readText (.ofText data)

/-- The record that a text spells. -/
def readRecord (text : List Char) : Except Result Value :=
  match Value.read text with
  | .error e =>
    match e.fault with
    | .integerTooLong => .error .broken
    | _ => .error (.failure ("[red]Invalid JSON:[/red] " ++ e.message text))
  | .ok (.object ms) => .ok (.object ms)
  | .ok _ => .error (.failure "[red]Record must be a JSON object[/red]")

/-- Checks a record, and its required fields where that is asked for. -/
def checkRecord (form : Form) (record : Value) (required : Bool) : Except Record.Refusal Unit := do
  if required then Record.checkRequired form record
  Record.validate (.form form) record []

def refusalResult : Record.Refusal → Result
  | .defect d => .failure ("[red]Invalid:[/red] " ++ escape d.complaint.message)
  | _ => .broken

def validateSpecs : List OptionSpec :=
  [helpSpec, valueSpec "--app-id" 'a', flagSpec "--required"]

/-- Validates a record against the form that a file describes. -/
def validateCommand (g : Given) (config : Config) (now : Moment) : m Result := do
  match g.texts with
  | [file, data] =>
    match ← compileFile (.ofText file) (g.value? "--app-id") config now with
    | .error r => pure r
    | .ok form =>
      match ← readRecordText data with
      | .error r => pure r
      | .ok text =>
        match readRecord text with
        | .error r => pure r
        | .ok record =>
          match checkRecord form record (g.has "--required") with
          | .ok _ => pure { shown := [.text "[green]OK[/green]"] }
          | .error e => pure (refusalResult e)
  | _ => pure .misused

/-! ### Folders -/

/-- The form descriptions in a folder, which must be there. -/
def readSources (p : Path) : m (Except Result (List Source)) := do
  if ← isFolder p then pure ((← readFolder p).mapError fun _ => .broken)
  else pure (.error (.failure ("[red]Proto directory not found: " ++ p.text ++ "[/red]")))

/-- The folder that is given, or else that of the settings. -/
def folderOf (texts : List String) (config : Config) : Option Path :=
  match texts with
  | [] => some config.folderPath
  | [folder] => some (.ofText folder)
  | _ => none

def appsTable (apps : List App) : Table where
  title := "Apps"
  headers := ["App ID", "Name", "Description", "File"]
  rows := apps.map fun a => [a.id, a.name, a.description, a.file]

def appsSpecs : List OptionSpec := [helpSpec, flagSpec "--json"]

/-- Lists the apps of a folder. -/
def appsCommand (g : Given) (config : Config) : m Result := do
  match folderOf g.texts config with
  | none => pure .misused
  | some folder =>
    match ← readSources folder with
    | .error r => pure r
    | .ok files =>
      match apps files with
      | .error _ => pure .broken
      | .ok found =>
        let count := found.length
        if g.has "--json" then
          pure { shown := [.json (.list (found.map App.toValue)) (.block 2)] }
        else if found.isEmpty then pure { shown := [.text "[dim]No apps found.[/dim]"] }
        else pure { shown :=
          [.table (appsTable found), .text s!"\n[dim]{count} app(s) found[/dim]"] }

def manifestSpecs : List OptionSpec := [helpSpec, valueSpec "--output" 'o']

/-- Makes the manifest of a folder, and shows it or writes it to a file. -/
def manifestCommand (g : Given) (config : Config) : m Result := do
  match folderOf g.texts config with
  | none => pure .misused
  | some folder =>
    match ← readSources folder with
    | .error r => pure r
    | .ok files =>
      match entries files config.sync.skipPrefixes config.compiler with
      | .error _ => pure .broken
      | .ok found =>
        let v := manifest found config.compiler.defaultVersion
        match g.value? "--output" with
        | none => pure { shown := [.json v (.block 2)] }
        | some output =>
          let p := Path.ofText output
          let text := v.write (.block 2) ++ "\n"
          match ← Access.write p text.toUTF8.toList with
          | .error _ => pure .broken
          | .ok _ =>
            let shown := p.text
            let count := found.length
            pure { shown := [.text s!"[green]✓[/green] Manifest written to {shown} ({count} app(s))"] }

def syncTable (tenant : String) (synced : List Store.SyncedForm) : Table where
  title := "Synced forms (" ++ tenant ++ ")"
  headers := ["App ID", "Form", "Version"]
  rows := synced.map fun s => [s.app, s.form, s.version]

def syncSpecs : List OptionSpec := [helpSpec, valueSpec "--tenant" 't']

/-- Brings an empty store in step with a folder, and tells what became of the files. -/
def syncCommand (g : Given) (config : Config) (now : Moment) : m Result := do
  match folderOf g.texts config with
  | none => pure .misused
  | some folder =>
    match ← readSources folder with
    | .error r => pure r
    | .ok files =>
      let tenant := ((g.value? "--tenant").filter (!·.isEmpty)).getD config.sync.tenant
      let report := (Store.sync .empty files tenant config.compiler now).report
      let skipped := report.skipped.map fun app =>
        Shown.text ("[yellow]Skipped " ++ app ++ ": no root message[/yellow]")
      let failed := report.failed.map fun (file, e) =>
        Shown.error ("[red]Failed " ++ file ++ ":[/red] " ++ e.message)
      pure ⟨.table (syncTable tenant report.synced) :: skipped ++ failed,
        if report.isClean then 0 else 1⟩

/-! ### The command line -/

/-- The commands. -/
inductive Name
  | compile
  | validate
  | apps
  | manifest
  | sync
  deriving DecidableEq, Repr

def Name.ofText? : String → Option Name
  | "compile" => some .compile
  | "validate" => some .validate
  | "apps" => some .apps
  | "manifest" => some .manifest
  | "sync" => some .sync
  | _ => none

def Name.specs : Name → List OptionSpec
  | .compile => compileSpecs
  | .validate => validateSpecs
  | .apps => appsSpecs
  | .manifest => manifestSpecs
  | .sync => syncSpecs

def globalSpecs : List OptionSpec :=
  [helpSpec, flagSpec "--version" 'v', valueSpec "--config" 'c']

/-- Runs a command with its arguments. -/
def Name.run (name : Name) (args : List String) (config : Config) (now : Moment) : m Result := do
  match readArguments name.specs true none args with
  | .error _ => pure .misused
  | .ok g =>
    if g.has "--help" then pure {}
    else match name with
      | .compile => compileCommand g config now
      | .validate => validateCommand g config now
      | .apps => appsCommand g config
      | .manifest => manifestCommand g config
      | .sync => syncCommand g config now

/-- The settings for a command: those of the file that is given, or of the nearest one. -/
def settings (file : Option String) : m (Except Result Config) := do
  let path ← match file with
    | some file => pure (some (Path.ofText file))
    | none => Config.find (← Access.home)
  match ← Config.load path with
  | .ok config => pure (.ok config)
  | .error (.config e) => pure (.error (.failure ("[red]Config error:[/red] " ++ e.message)))
  | .error _ => pure (.error .broken)

/-- Runs the command that the arguments of a command line name. -/
def runLine (args : List String) (now : Moment) : m Result := do
  match readArguments globalSpecs false none args with
  | .error _ => pure .misused
  | .ok g =>
    if g.has "--help" || g.has "--version" then pure {}
    else match g.texts with
      | [] => pure .misused
      | command :: args =>
        match Name.ofText? command with
        | none => pure .misused
        | some name =>
          match ← settings (g.value? "--config") with
          | .error r => pure r
          | .ok config => name.run args config now

end

end Formwork.Command
