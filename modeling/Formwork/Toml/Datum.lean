import Formwork.Number.Decimal
import Formwork.Value.Display

/-!
Data of TOML documents: the data of JSON, and dates and times.
-/
namespace Formwork.Toml
open Formwork.Value

structure Date where
  year : Nat
  month : Nat
  day : Nat
  deriving DecidableEq, Repr

structure Time where
  hour : Nat
  minute : Nat
  second : Nat
  micro : Nat
  deriving DecidableEq, Repr

/-- How far a clock is from coordinated universal time, in minutes. -/
inductive Zone
  | utc
  | offset (minutes : Int)
  deriving DecidableEq, Repr

inductive Datum
  | null
  | bool (b : Bool)
  | int (n : Int)
  | float (x : Binary64)
  | text (s : String)
  | date (date : Date)
  | time (time : Time)
  | moment (date : Date) (time : Time) (zone : Option Zone)
  | list (items : List Datum)
  | table (members : List (String × Datum))
  deriving Repr

namespace Datum

/-- The datum under a key. -/
def find? (members : List (String × Datum)) (key : String) : Option Datum := members.lookup key

mutual

/-- The datum that a value is. -/
def ofValue : Value → Datum
  | .null => .null
  | .bool b => .bool b
  | .int n => .int n
  | .float x => .float x
  | .text s => .text s
  | .list items => .list (ofValues items)
  | .object members => .table (ofMembers members)

def ofValues : List Value → List Datum
  | [] => []
  | v :: vs => ofValue v :: ofValues vs

def ofMembers : List (String × Value) → List (String × Datum)
  | [] => []
  | (k, v) :: ms => (k, ofValue v) :: ofMembers ms

end

/-! ### Display -/

/-- The parts of a time as messages show them: seconds and their fractions only where they are
something. -/
def timeParts (t : Time) : List Nat :=
  [t.hour, t.minute] ++
    (if t.micro ≠ 0 then [t.second, t.micro] else if t.second ≠ 0 then [t.second] else [])

def dateParts (d : Date) : List Nat := [d.year, d.month, d.day]

def call (name : String) (args : List String) : String :=
  "datetime." ++ name ++ "(" ++ commaSeparated args ++ ")"

def numbers (ns : List Nat) : List String := ns.map toString

/-- A zone as messages show it: a day less where it lies behind. -/
def zoneText : Zone → String
  | .utc => "datetime.timezone.utc"
  | .offset minutes =>
    let days := minutes / 1440
    let seconds := minutes % 1440 * 60
    let dayPart := if days = 0 then [] else [s!"days={days}"]
    let secondPart := if seconds = 0 then [] else [s!"seconds={seconds}"]
    let delta := dayPart ++ secondPart
    if minutes = 0 then "datetime.timezone.utc"
    else call "timezone" [call "timedelta" delta]

mutual

/-- A datum as messages show it. -/
def display : Datum → String
  | .null => "None"
  | .bool b => if b then "True" else "False"
  | .int n => toString n
  | .float x => Decimal.write x
  | .text s => quotedText s
  | .date d => call "date" (numbers (dateParts d))
  | .time t => call "time" (numbers (timeParts t))
  | .moment d t zone =>
    call "datetime" (numbers (dateParts d ++ timeParts t) ++
      (zone.map fun z => "tzinfo=" ++ zoneText z).toList)
  | .list items => "[" ++ commaSeparated (displayItems items) ++ "]"
  | .table members => "\x7b" ++ commaSeparated (displayMembers members) ++ "\x7d"

def displayItems : List Datum → List String
  | [] => []
  | d :: ds => display d :: displayItems ds

def displayMembers : List (String × Datum) → List String
  | [] => []
  | (k, d) :: ms => (quotedText k ++ ": " ++ display d) :: displayMembers ms

end

end Datum

end Formwork.Toml
