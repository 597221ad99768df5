import Formwork.Form.Resolve
import Formwork.Moment

/-!
Compiling a form description: one of its messages is the root, and its resolved fields make the
form.
-/
namespace Formwork
open Formwork.Idl Formwork.Text

/-- The settings of compilation. -/
structure CompilerConfig where
  defaultVersion : String := "1.0.0"
  /-- The greatest depth of nested messages. -/
  maxDepth : Int := 16
  /-- Messages that are no root of their own accord. -/
  rootExclusions : List String := ["ValidationRule", "Field", "ProfileFormPreset"]
  deriving DecidableEq, Repr

/-- The name that the root message of an app is expected to have. -/
def expectedRoot (app : String) : String := String.ofList (pascalCase app.toList) ++ "Form"

/-- The root among the names of messages: the expected name, then `FormSchema`, then the first name
that is not excluded. -/
def pickRoot (app : String) (names exclusions : List String) : Option String :=
  if names.contains (expectedRoot app) then some (expectedRoot app)
  else if names.contains "FormSchema" then some "FormSchema"
  else names.find? (!exclusions.contains ·)

/-- The root message of an app with its resolved fields. -/
structure CompiledForm where
  root : Message
  fields : List ResolvedField

/-- Picks the root of a document and resolves its fields. -/
def Document.compile (d : Document) (app : String) (config : CompilerConfig) :
    Option CompiledForm × List Notice :=
  match (pickRoot app (d.messages.map (·.1)) config.rootExclusions).bind (List.lookup · d.messages) with
  | none => (none, [.noRoot app])
  | some root =>
    let types : Types := ⟨d.messages, d.enumerations⟩
    let (fields, notices) := resolveFields types config.maxDepth [root.name] root.fields
    (some ⟨root, fields⟩, notices)

/-- What a compiled form is stamped with. -/
structure Stamp where
  status : FormStatus := .draft
  tenant : Option String := none
  now : Moment

def CompiledForm.toForm (c : CompiledForm) (version : String) (stamp : Stamp) : Form where
  name := c.root.name
  version
  tenant := stamp.tenant
  status := stamp.status
  createdAt := stamp.now.withOffset
  fields := ResolvedField.toFormFields c.fields

/-- Compiles a form description; `none` when it has no root message. Only an annotated pattern can
make this fail. -/
def compile (text : List Char) (app : String) (config : CompilerConfig) (stamp : Stamp) :
    Except Pattern.Fault (Option Form × List Notice) := do
  let d ← Document.read text
  let (compiled, notices) := Document.compile d app config
  pure (compiled.map (·.toForm config.defaultVersion stamp), notices)

end Formwork
