import Formwork.Console.Table
import Formwork.Value.Writer

/-!
What a command shows, and the code that it ends with.
-/
namespace Formwork.Command
open Formwork.Console

/-- Something that a command shows. -/
inductive Shown
  /-- A value as JSON. -/
  | json (value : Value) (spread : Value.Spread)
  /-- A text with markup. -/
  | text (markup : String)
  | table (table : Table)
  /-- A text with markup, shown among the errors. -/
  | error (markup : String)

/-- What a command has come to: what it shows, and its code. -/
structure Result where
  shown : List Shown := []
  code : Nat := 0

/-- The code of a command that was called with arguments that do not fit. -/
def usageCode : Nat := 2

namespace Result

def failure (markup : String) : Result := ⟨[.error markup], 1⟩

/-- A command that cannot go on. -/
def broken : Result := ⟨[], 1⟩

def misused : Result := ⟨[], usageCode⟩

end Result

/-- What a command has written, and its code. -/
structure Outcome where
  output : String := ""
  errors : String := ""
  code : Nat := 0
  deriving DecidableEq, Repr

/-- What is written of one thing. -/
def Shown.write (terminal : Nat) (o : Outcome) : Shown → Except MarkupError Outcome
  | .json v spread => .ok { o with output := o.output ++ v.write spread ++ "\n" }
  | .text markup => do pure { o with output := o.output ++ (← print terminal markup) }
  | .table t => do pure { o with output := o.output ++ (← t.render terminal) }
  | .error markup => do pure { o with errors := o.errors ++ (← print terminal markup) }

/-- Writes things in order; malformed markup ends this with a failure. -/
def writeAll (terminal : Nat) (code : Nat) (o : Outcome) : List Shown → Outcome
  | [] => { o with code }
  | s :: rest =>
    match s.write terminal o with
    | .ok o => writeAll terminal code o rest
    | .error _ => { o with code := 1 }

def Result.outcome (r : Result) (terminal : Nat) : Outcome := writeAll terminal r.code {} r.shown

end Formwork.Command
