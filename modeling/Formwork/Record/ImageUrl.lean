import Formwork.Text.Blank
import Formwork.Text.Case
import Formwork.Value.Basic

/-!
References to images: data, a blob, a path from the root, or an absolute web address.
-/
namespace Formwork.Record
open Formwork.Text

/-- The authority of an address is malformed: its brackets do not enclose an address of version 6,
or it holds a character that stands for a delimiter. -/
structure BadAuthority where
  deriving DecidableEq, Repr

/-! ### Addresses in brackets -/

def isHexDigit (c : Char) : Bool :=
  c.isDigit || ('a' ≤ c && c ≤ 'f') || ('A' ≤ c && c ≤ 'F')

/-- Up to four hexadecimal digits. -/
def isHextet (cs : List Char) : Bool := !cs.isEmpty && cs.length ≤ 4 && cs.all isHexDigit

/-- A number up to 255 without leading zeros. -/
def isOctet (cs : List Char) : Bool :=
  !cs.isEmpty && cs.length ≤ 3 && cs.all Char.isDigit && (cs.length == 1 || cs.head? != some '0') &&
    cs.foldl (fun n c => n * 10 + (c.toNat - 48)) 0 ≤ 255

def isDotted (cs : List Char) : Bool :=
  let octets := pieces (· == '.') cs
  octets.length == 4 && octets.all isOctet

/-- How many groups of an address some pieces stand for; the last one may be dotted, and stands for
two. -/
def groups? (parts : List (List Char)) : Option Nat :=
  match parts.getLast? with
  | none => some 0
  | some last =>
    if !parts.dropLast.all isHextet then none
    else if last.contains '.' then if isDotted last then some (parts.length + 1) else none
    else if isHextet last then some parts.length
    else none

/-- The text before and after the first doubled colon. -/
def splitDoubleColon? : List Char → Option (List Char × List Char)
  | ':' :: ':' :: cs => some ([], cs)
  | c :: cs => (splitDoubleColon? cs).map fun (before, after) => (c :: before, after)
  | [] => none

def colonPieces (cs : List Char) : List (List Char) :=
  if cs.isEmpty then [] else pieces (· == ':') cs

/-- An address of version 6: eight groups, or fewer with a doubled colon for the missing ones. -/
def isVersion6 (cs : List Char) : Bool :=
  match splitDoubleColon? cs with
  | none => groups? (colonPieces cs) == some 8
  | some (before, after) =>
    let left := colonPieces before
    left.all isHextet &&
      match groups? (colonPieces after) with
      | some n => left.length + n ≤ 7
      | none => false

/-- An address with an optional zone after a percent sign. -/
def isZonedVersion6 (cs : List Char) : Bool :=
  isVersion6 (cs.takeWhile (· != '%')) &&
    match cs.dropWhile (· != '%') with
    | [] => true
    | _ :: zone => !zone.isEmpty && !zone.contains '%'

/-- An address of a version to come: its version in hexadecimal, a point, and more text. -/
def isFutureVersion : List Char → Bool
  | 'v' :: cs =>
    !(cs.takeWhile isHexDigit).isEmpty &&
      match cs.dropWhile isHexDigit with
      | '.' :: rest => !rest.isEmpty
      | _ => false
  | _ => false

/-- What may stand in brackets. -/
def isBracketed (cs : List Char) : Bool :=
  if cs.head? = some 'v' then isFutureVersion cs else isZonedVersion6 cs

/-! ### Authorities -/

/-- Characters that stand for one of the delimiters of an address, alone or among others. -/
def delimiterLike (c : Char) : Bool :=
  let n := c.toNat
  [0x2100, 0x2101, 0x2105, 0x2106, 0x2A74, 0xFE13, 0xFE16, 0xFE55, 0xFE56, 0xFE5F, 0xFE6B, 0xFF03,
    0xFF0F, 0xFF1A, 0xFF1F, 0xFF20].contains n || (0x2047 ≤ n && n ≤ 0x2049)

/-- Whether brackets come in pairs and enclose what they may. -/
def bracketsFit (authority : List Char) : Bool :=
  match authority.contains '[', authority.contains ']' with
  | false, false => true
  | true, true =>
    isBracketed (((authority.dropWhile (· != '[')).drop 1).takeWhile (· != ']'))
  | _, _ => false

def authorityFits (authority : List Char) : Bool :=
  bracketsFit authority && !authority.any delimiterLike

def isSchemeChar (c : Char) : Bool := c.isAlphanum || c == '+' || c == '-' || c == '.'

/-- The scheme of an address in lower case, and what follows its colon; an address without a scheme
has the empty one. -/
def splitScheme (cs : List Char) : List Char × List Char :=
  let scheme := cs.takeWhile (· != ':')
  match cs.dropWhile (· != ':') with
  | ':' :: rest =>
    if (scheme.head?.any Char.isAlpha) && scheme.all isSchemeChar then
      (scheme.map Char.toLower, rest)
    else ([], cs)
  | _ => ([], cs)

/-- The text between two slashes and the next delimiter. -/
def authorityOf : List Char → List Char
  | '/' :: '/' :: cs => cs.takeWhile fun c => !(c == '/' || c == '?' || c == '#')
  | _ => []

/-- Whether a text is an address of the web with an authority. Control characters in front and line
breaks and tabs anywhere are passed over. -/
def isWebAddress (text : List Char) : Except BadAuthority Bool :=
  let cs := (text.dropWhile (·.toNat ≤ 32)).filter fun c => !(c == '\t' || c == '\r' || c == '\n')
  let (scheme, rest) := splitScheme cs
  let authority := authorityOf rest
  if !authorityFits authority then .error {}
  else .ok (["http".toList, "https".toList].contains scheme && !authority.isEmpty)

/-- Whether a text refers to an image. -/
def isImageText (text : List Char) : Except BadAuthority Bool :=
  let cs := strip text
  let lowered := lower cs
  if cs.isEmpty then .ok false
  else if "data:image/".toList.isPrefixOf lowered || "blob:".toList.isPrefixOf lowered then .ok true
  else if cs.head? = some '/' && (cs.drop 1).head? != some '/' then .ok true
  else isWebAddress cs

/-- Whether a value refers to an image. -/
def isImageUrl : Value → Except BadAuthority Bool
  | .text s => isImageText s.toList
  | _ => .ok false

end Formwork.Record
