import Formwork.Number.Reading

/-!
Arguments of the command line: options by their long or short names, and texts between them.
-/
namespace Formwork.Command

/-- An option, with or without a value. -/
structure OptionSpec where
  long : String
  short : Option Char := none
  hasValue : Bool := false
  deriving DecidableEq, Repr

/-- The arguments do not fit the command. -/
structure UsageError where
  deriving DecidableEq, Repr

/-- What was given: options with their values, in order, and the other arguments. -/
structure Given where
  options : List (String × String) := []
  texts : List String := []
  deriving DecidableEq, Repr

namespace Given

/-- The value of an option that was given last. -/
def value? (g : Given) (long : String) : Option String := g.options.reverse.lookup long

def has (g : Given) (long : String) : Bool := (g.value? long).isSome

end Given

/-- What an argument with options comes to: the options that are complete, and one that waits for
its value. -/
structure Taken where
  options : List (String × String) := []
  waiting : Option String := none

/-- Short options that share a dash; the value of the last one may follow at once. -/
def takeShort (specs : List OptionSpec) : List Char → Except UsageError Taken
  | [] => .ok {}
  | c :: cs =>
    match specs.find? (·.short == some c) with
    | none => .error {}
    | some spec =>
      if spec.hasValue then
        if cs.isEmpty then .ok { waiting := some spec.long }
        else .ok { options := [(spec.long, String.ofList cs)] }
      else do
        let taken ← takeShort specs cs
        pure { taken with options := (spec.long, "") :: taken.options }

/-- An option by its long name, with an equals sign before a value that belongs to it. -/
def takeLong? (specs : List OptionSpec) (cs : List Char) : Option (Except UsageError Taken) :=
  let name := String.ofList (cs.takeWhile (· != '='))
  (specs.find? (·.long == name)).map fun spec =>
    match spec.hasValue, cs.dropWhile (· != '=') with
    | true, '=' :: value => .ok { options := [(spec.long, String.ofList value)] }
    | true, _ => .ok { waiting := some spec.long }
    | false, [] => .ok { options := [(spec.long, "")] }
    | false, _ => .error {}

/-- An argument that begins with a dash. -/
def takeOption (specs : List OptionSpec) (arg : List Char) : Except UsageError Taken :=
  match takeLong? specs arg with
  | some taken => taken
  | none =>
    match arg with
    | '-' :: '-' :: _ => .error {}
    | _ => takeShort specs (arg.drop 1)

/-- Reads arguments. With `mixed`, options may stand after other arguments; two dashes end them. -/
def readArguments (specs : List OptionSpec) (mixed : Bool) (waiting : Option String) :
    List String → Except UsageError Given
  | [] => if waiting.isSome then .error {} else .ok {}
  | arg :: args =>
    match waiting with
    | some name => do
      let given ← readArguments specs mixed none args
      pure { given with options := (name, arg) :: given.options }
    | none =>
      if arg = "--" then .ok { texts := args }
      else if arg.toList.head? = some '-' && 1 < arg.length then do
        let taken ← takeOption specs arg.toList
        let given ← readArguments specs mixed taken.waiting args
        pure { given with options := taken.options ++ given.options }
      else if mixed then do
        let given ← readArguments specs mixed none args
        pure { given with texts := arg :: given.texts }
      else .ok { texts := arg :: args }

/-- A whole number as it may be written for an option: digits of any script with single underscores
between them, a sign, and white space around. -/
def wholeNumber? (text : String) : Option Int := do
  let trim (cs : List Char) := (cs.dropWhile Decimal.isPadding).reverse
  let (negative, digits) := match (trim (trim text.toList)).map Decimal.asciiDigit with
    | '-' :: rest => (true, rest)
    | '+' :: rest => (false, rest)
    | rest => (false, rest)
  let plain ← Decimal.dropUnderscores false digits
  if plain.isEmpty || !plain.all Char.isDigit || 4300 < plain.length then none
  else
    let n : Int := Decimal.valueOf (Decimal.spanDigits plain).1
    pure (if negative then -n else n)

end Formwork.Command
