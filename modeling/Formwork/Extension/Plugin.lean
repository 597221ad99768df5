import Formwork.Extension.Registry
import Formwork.Moment
import Formwork.Record.Write

/-!
Plugins: named contributions of field types, components, checks and handlers. Handlers run at the
hooks of the life of schemas and records; each one gets what the one before it returned.
-/
namespace Formwork.Extension
open Formwork.Record Formwork.Text

/-- The points that handlers hook into. -/
inductive Hook
  | beforeSchemaSave
  | afterSchemaSave
  | beforeDataSubmit
  | afterDataSubmit
  deriving DecidableEq, Repr

def Hook.ofName? : String → Option Hook
  | "beforeSchemaSave" => some .beforeSchemaSave
  | "afterSchemaSave" => some .afterSchemaSave
  | "beforeDataSubmit" => some .beforeDataSubmit
  | "afterDataSubmit" => some .afterDataSubmit
  | _ => none

/-- A name is none of the hooks. -/
structure UnknownHook where
  deriving DecidableEq, Repr

def Hook.ofName (name : String) : Except UnknownHook Hook :=
  match Hook.ofName? name with
  | some h => .ok h
  | none => .error {}

/-! ### Handlers -/

/-- Why a handler returns nothing. -/
inductive HandlerError
  | complaint (complaint : Complaint)
  /-- The payload is of a type that the handler has no use for. -/
  | wrongType
  /-- A member was asked of something that is no object. -/
  | noMembers
  deriving DecidableEq, Repr

/-- What is done to a payload at a moment. -/
abbrev Handler := Moment → Value → Except HandlerError Value

namespace Handler

/-- Sets a member. -/
def set (key : String) (value : Value) : Handler := fun _ payload =>
  match payload with
  | .object ms => .ok (.object (Value.put key value ms))
  | _ => .error .wrongType

/-- Drops a member. -/
def drop (key : String) : Handler := fun _ payload =>
  match payload with
  | .object ms => .ok (.object (ms.filter (·.1 != key)))
  | _ => .error .noMembers

/-- Adds an item to a list. -/
def append (value : Value) : Handler := fun _ payload =>
  match payload with
  | .list items => .ok (.list (items ++ [value]))
  | _ => .error .wrongType

/-- Refuses every payload. -/
def fail (text : String) : Handler := fun _ _ => .error (.complaint { text })

/-- Puts a value in the place of every payload. -/
def replace (value : Value) : Handler := fun _ _ => .ok value

/-- Sets the time of the audit; a payload that counts as false makes an object of its own. -/
def stampAudit : Handler := fun now payload =>
  if payload.truth then set "_auditTs" (.text now.withOffset) now payload
  else .ok (.object [("_auditTs", .text now.withOffset)])

end Handler

/-! ### Checks -/

/-- Checks by name. -/
inductive Check
  | accept
  | reject
  | startsWith
  | equals
  | hasRuleValue
  /-- A text is not blank. -/
  | trimmed
  deriving DecidableEq, Repr

def Check.ofName? : String → Option Check
  | "yes" => some .accept
  | "no" => some .reject
  | "prefix" => some .startsWith
  | "equals" => some .equals
  | "has_rule_value" => some .hasRuleValue
  | "trimmed" => some .trimmed
  | _ => none

/-- Runs a check on a value, given the value of the rule. -/
def Check.run (c : Check) (value : Value) (rule : Option String) : Bool :=
  match c with
  | .accept => true
  | .reject => false
  | .startsWith =>
    match value with
    | .text s => (rule.getD "").toList.isPrefixOf s.toList
    | _ => false
  | .equals =>
    match rule with
    | some s => value.equal (.text s)
    | none => value.isNull
  | .hasRuleValue => rule.isSome
  | .trimmed =>
    match value with
    | .text s => !(strip s.toList).isEmpty
    | _ => true

/-! ### Plugins -/

inductive Contribution
  | fieldType (type : String) (definition : Value)
  | renderer (type : String) (component : Value)
  | rule (type : String) (check : Check)
  | handler (hook : String) (handler : Handler)

structure Plugin where
  name : String
  contributions : List Contribution

/-- Refuses blank texts on demand, and stamps submitted records with the time. -/
def Plugin.audit : Plugin where
  name := "audit-plugin"
  contributions := [.rule "trimmed" .trimmed, .handler "beforeDataSubmit" .stampAudit]

/-- What plugins have contributed. -/
structure Extensions where
  components : Registry := []
  fieldTypes : List (String × Value) := []
  checks : List (String × Check) := []
  plugins : List String := []
  handlers : List (Hook × Handler) := []

namespace Extensions

def addHandler (e : Extensions) (hook : String) (handler : Handler) :
    Except UnknownHook Extensions := do
  pure { e with handlers := e.handlers ++ [(← Hook.ofName hook, handler)] }

def contribute (e : Extensions) : Contribution → Except UnknownHook Extensions
  | .fieldType type definition =>
    .ok { e with fieldTypes := Value.put type definition e.fieldTypes }
  | .renderer type component => .ok { e with components := e.components.register type component }
  | .rule type check => .ok { e with checks := Keyed.put Prod.fst (type, check) e.checks }
  | .handler hook handler => e.addHandler hook handler

/-- Takes contributions in order; one that is refused ends this, and the earlier ones stay. -/
def contributeAll (e : Extensions) : List Contribution → Extensions × Except UnknownHook Unit
  | [] => (e, .ok ())
  | c :: cs =>
    match e.contribute c with
    | .ok e => e.contributeAll cs
    | .error u => (e, .error u)

/-- Uses a plugin; it is listed when all of its contributions are taken. -/
def use (e : Extensions) (p : Plugin) : Extensions × Except UnknownHook Unit :=
  match e.contributeAll p.contributions with
  | (e, .ok ()) => ({ e with plugins := e.plugins ++ [p.name] }, .ok ())
  | (e, .error u) => (e, .error u)

/-- The checks as the validation of records takes them. -/
def namedChecks (e : Extensions) : Checks := e.checks.map fun (name, c) => (name, c.run)

def runHandlers (e : Extensions) (hook : Hook) (now : Moment) (payload : Value) :
    Except HandlerError Value :=
  (e.handlers.filter (·.1 == hook)).foldlM (fun payload (_, handler) => handler now payload) payload

/-- Why a record cannot be submitted. -/
inductive SubmitError
  | handler (error : HandlerError)
  | write (refusal : WriteRefusal)
  deriving DecidableEq, Repr

/-- Submits a record: the handlers before, the checks before a write, and the handlers after. -/
def submit (e : Extensions) (form : Form) (data : Value) (context : Context) (now : Moment) :
    Except SubmitError Value := do
  match data with
  | .object _ =>
    let record ← (e.runHandlers .beforeDataSubmit now data).mapError .handler
    (checkWrite form record context e.namedChecks).mapError .write
    (e.runHandlers .afterDataSubmit now record).mapError .handler
  | _ => throw (.handler .wrongType)

end Extensions

end Formwork.Extension
