/-!
Notices: what is worth telling about work that goes on nevertheless.
-/
namespace Formwork

/-- How serious a notice is. -/
inductive Level
  | info
  | warning
  | error
  deriving DecidableEq, Repr

def Level.name : Level → String
  | .info => "INFO"
  | .warning => "WARNING"
  | .error => "ERROR"

inductive Notice
  /-- A field was dropped, since its message type is being resolved already; `chain` holds the
  messages from the root to the one referred to. -/
  | recursion (field message : String) (chain : List String)
  /-- A field was dropped, since its message type lies too deep. -/
  | depth (field : String) (limit : Int) (message : String)
  | noRoot (app : String)
  | synced (app form version : String)
  | syncFailed (file text : String)
  | removed (tenant app : String) (forms : List String)
  deriving DecidableEq, Repr

namespace Notice

def level : Notice → Level
  | .recursion .. | .depth .. | .noRoot .. => .warning
  | .synced .. | .removed .. => .info
  | .syncFailed .. => .error

def message : Notice → String
  | .recursion field message chain =>
    let route := " -> ".intercalate chain
    s!"Dropping field {field}: recursive reference to {message} ({route})"
  | .depth field limit message =>
    s!"Dropping field {field}: nesting deeper than {limit} levels at {message}"
  | .noRoot app => s!"No root message found for app {app}"
  | .synced app form version => s!"Synced proto message: {app}/{form}@{version}"
  | .syncFailed file text => s!"Failed to sync {file}: {text}"
  | .removed tenant app forms =>
    let count := forms.length
    let names := ", ".intercalate forms
    s!"Removed {count} stale form(s) for {tenant}/{app}: {names}"

end Notice

end Formwork
