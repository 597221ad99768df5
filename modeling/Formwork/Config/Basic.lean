import Formwork.Files.Path
import Formwork.Form.Compile
import Formwork.Text.Case
import Formwork.Toml.Datum

/-!
Settings: where form descriptions are, how they are compiled, and how much is told. Every setting
has a default.
-/
namespace Formwork
open Files Text Toml

/-- Where form descriptions are, and whose forms they are. -/
structure SyncConfig where
  folder : String := "proto"
  tenant : String := "demo-tenant"
  /-- Files whose names begin with one of these are left out of manifests. -/
  skipPrefixes : List String := ["common."]
  deriving DecidableEq, Repr

structure Config where
  sync : SyncConfig := {}
  compiler : CompilerConfig := {}
  /-- The level of what is told. -/
  level : String := "INFO"
  /-- The file that the settings were read from. -/
  path : Option Path := none
  deriving DecidableEq, Repr

/-- Why settings cannot be used. -/
inductive ConfigError
  | notTable (section_ : String)
  /-- A setting is of another type than the one named. -/
  | wrongType (section_ key type : String) (found : Datum)
  | notTexts (section_ key : String)
  | tooShallow (depth : Int)
  /-- The file is no TOML document. -/
  | malformed

namespace ConfigError

def message : ConfigError → String
  | .notTable s => s!"[{s}] must be a table"
  | .wrongType s key type found =>
    let shown := found.display
    s!"[{s}] {key} must be {type}, got {shown}"
  | .notTexts s key => s!"[{s}] {key} must be a list of strings"
  | .tooShallow depth => s!"[compiler] max_depth must be at least 1, got {depth}"
  | .malformed => "Invalid TOML"

end ConfigError

namespace Config

/-- The members of a section; a section that is missing is empty. -/
def members (data : List (String × Datum)) (s : String) :
    Except ConfigError (List (String × Datum)) :=
  match Datum.find? data s with
  | none => .ok []
  | some (.table ms) => .ok ms
  | some _ => .error (.notTable s)

def text (s : String) (ms : List (String × Datum)) (key default : String) :
    Except ConfigError String :=
  match Datum.find? ms key with
  | none => .ok default
  | some (.text t) => .ok t
  | some d => .error (.wrongType s key "str" d)

def text? : Datum → Option String
  | .text t => some t
  | _ => none

def texts (s : String) (ms : List (String × Datum)) (key : String) (default : List String) :
    Except ConfigError (List String) :=
  match Datum.find? ms key with
  | none => .ok default
  | some (.list items) =>
    match items.mapM text? with
    | some ts => .ok ts
    | none => .error (.notTexts s key)
  | some d => .error (.wrongType s key "list" d)

/-- A depth of at least one. -/
def depth (ms : List (String × Datum)) (default : Int) : Except ConfigError Int :=
  match Datum.find? ms "max_depth" with
  | none => .ok default
  | some (.int n) => if n < 1 then .error (.tooShallow n) else .ok n
  | some (.bool b) => .error (.wrongType "compiler" "max_depth" "an integer" (.bool b))
  | some d => .error (.wrongType "compiler" "max_depth" "int" d)

/-- The settings that some data make. -/
def ofData (data : List (String × Datum)) (path : Option Path) : Except ConfigError Config := do
  let sync ← members data "sync"
  let compiler ← members data "compiler"
  let logging ← members data "logging"
  let base : Config := {}
  let folder ← text "sync" sync "proto_dir" base.sync.folder
  let tenant ← text "sync" sync "tenant_id" base.sync.tenant
  let skipPrefixes ← texts "sync" sync "skip_prefixes" base.sync.skipPrefixes
  let maxDepth ← depth compiler base.compiler.maxDepth
  let defaultVersion ← text "compiler" compiler "default_version" base.compiler.defaultVersion
  let rootExclusions ← texts "compiler" compiler "root_exclusions" base.compiler.rootExclusions
  let level ← text "logging" logging "level" base.level
  pure ⟨⟨folder, tenant, skipPrefixes⟩, ⟨defaultVersion, maxDepth, rootExclusions⟩, level, path⟩

/-- The level of what is told, in capitals; the environment has the say over the file. -/
def logLevel (c : Config) (environment : Option String) : String :=
  String.ofList (upper (environment.getD c.level).toList)

/-- The folder of form descriptions, seen from the file of the settings. -/
def folderPath (c : Config) : Path :=
  let folder := Path.ofText c.sync.folder
  match c.path with
  | none => folder
  | some p => p.parent.join folder

end Config

end Formwork
