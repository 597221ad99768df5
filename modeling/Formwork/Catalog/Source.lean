import Formwork.Form.Compile
import Formwork.Text.Bytes
import Formwork.Text.Case

/-!
Files of form descriptions. Each one describes an app, which is named after its file.
-/
namespace Formwork.Catalog
open Formwork.Text

/-- A file by its name. -/
structure Source where
  name : String
  bytes : List UInt8
  deriving DecidableEq, Repr

/-- Why a description cannot be worked with. -/
inductive SourceError
  | bytes (fault : ByteFault)
  | pattern (fault : Pattern.Fault)
  deriving DecidableEq, Repr

def SourceError.message : SourceError → String
  | .bytes f => f.message
  | .pattern f => f.message

def suffix : List Char := ".proto".toList

/-- Whether a name is that of a form description, in any case. -/
def isDescription (name : String) : Bool := suffix.isSuffixOf (lower name.toList)

/-- A name without its last point and what follows it, unless the point comes first or last. -/
def stem (name : String) : String :=
  let back := name.toList.reverse
  let extension := back.takeWhile (· != '.')
  match back.dropWhile (· != '.') with
  | '.' :: c :: rest =>
    if extension.isEmpty then name else String.ofList (c :: rest).reverse
  | _ => name

/-- The app that a file describes: its name without the suffix. -/
def appOf (name : String) : String :=
  if isDescription name then String.ofList (name.toList.take (name.length - suffix.length))
  else stem name

/-- The descriptions among files, in the order of their names. -/
def descriptions (files : List Source) : List Source :=
  (files.filter fun f => isDescription f.name).mergeSort fun a b => a.name ≤ b.name

namespace Source

def app (s : Source) : String := appOf s.name

def text (s : Source) : Except SourceError (List Char) := (fileText s.bytes).mapError .bytes

end Source

end Formwork.Catalog
