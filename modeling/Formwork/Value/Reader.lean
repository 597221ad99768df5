import Formwork.Number.Decimal
import Formwork.Value.Basic

/-!
Reading JSON text. Beside standard JSON the words for the infinities and for no number are values,
and an escaped surrogate without its partner is let through.
-/
namespace Formwork.Value

/-- Why a text is no JSON. -/
inductive JsonFault
  | value
  | propertyName
  | colon
  | comma
  | unterminated
  | control
  | escape
  | unicodeEscape
  | extra
  | byteOrderMark
  /-- A whole number of more than 4300 digits, which is not read. -/
  | integerTooLong
  deriving DecidableEq, Repr

def JsonFault.message : JsonFault → String
  | .value => "Expecting value"
  | .propertyName => "Expecting property name enclosed in double quotes"
  | .colon => "Expecting ':' delimiter"
  | .comma => "Expecting ',' delimiter"
  | .unterminated => "Unterminated string starting at"
  | .control => "Invalid control character at"
  | .escape => "Invalid \\escape"
  | .unicodeEscape => "Invalid \\uXXXX escape"
  | .extra => "Extra data"
  | .byteOrderMark => "Unexpected UTF-8 BOM (decode using utf-8-sig)"
  | .integerTooLong => "Exceeds the limit (4300 digits) for integer string conversion"

/-- A fault and its position. -/
structure JsonError where
  fault : JsonFault
  position : Nat
  deriving DecidableEq, Repr

/-- The rest of a text, and its position. -/
structure Rest where
  position : Nat
  chars : List Char

def isJsonBlank (c : Char) : Bool := c == ' ' || c == '\t' || c == '\n' || c == '\r'

namespace Rest

def skipBlanks : List Char → Nat → Rest
  | [], n => ⟨n, []⟩
  | c :: cs, n => if isJsonBlank c then skipBlanks cs (n + 1) else ⟨n, c :: cs⟩

def trim (r : Rest) : Rest := skipBlanks r.chars r.position

end Rest

def hexDigit? (c : Char) : Option Nat :=
  if c.isDigit then some (c.toNat - 48)
  else if 'a' ≤ c ∧ c ≤ 'f' then some (c.toNat - 87)
  else if 'A' ≤ c ∧ c ≤ 'F' then some (c.toNat - 55)
  else none

def hexCode? (cs : List Char) : Option Nat :=
  if cs.length = 4 then
    cs.foldl (fun n c => n.bind fun n => (hexDigit? c).map (n * 16 + ·)) (some 0)
  else none

def plainEscape? : Char → Option Char
  | '"' => some '"'
  | '\\' => some '\\'
  | '/' => some '/'
  | 'b' => some (Char.ofNat 8)
  | 'f' => some (Char.ofNat 12)
  | 'n' => some '\n'
  | 'r' => some '\r'
  | 't' => some '\t'
  | _ => none

def isHighSurrogate (n : Nat) : Bool := 0xD800 ≤ n && n < 0xDC00

def isLowSurrogate (n : Nat) : Bool := 0xDC00 ≤ n && n < 0xE000

/-- The character of a code unit; a surrogate by itself becomes the replacement character. -/
def unitChar (n : Nat) : Char :=
  if 0xD800 ≤ n ∧ n < 0xE000 then Char.ofNat 0xFFFD else Char.ofNat n

/-- A string after its opening quote, which stands at `start`. `skip` characters belong to an escape
that was read already. -/
def stringFrom (start : Nat) (skip : Nat) (position : Nat) : List Char → Except JsonError (List Char × Rest)
  | [] => .error ⟨.unterminated, start⟩
  | c :: cs =>
    match skip with
    | s + 1 => stringFrom start s (position + 1) cs
    | 0 =>
      let go (out : Char) (s : Nat) : Except JsonError (List Char × Rest) :=
        match stringFrom start s (position + 1) cs with
        | .ok (content, rest) => .ok (out :: content, rest)
        | .error e => .error e
      if c = '"' then .ok ([], ⟨position + 1, cs⟩)
      else if c = '\\' then
        match cs with
        | [] => .error ⟨.unterminated, start⟩
        | 'u' :: digits =>
          if digits.length ≤ 4 then .error ⟨.unicodeEscape, position + 1⟩
          else match hexCode? (digits.take 4) with
            | none => .error ⟨.unicodeEscape, position + 1⟩
            | some high =>
              match isHighSurrogate high && decide (10 < digits.length), digits.drop 4 with
              | true, '\\' :: 'u' :: more =>
                match hexCode? (more.take 4) with
                | none => .error ⟨.unicodeEscape, position + 7⟩
                | some low =>
                  if isLowSurrogate low then
                    go (Char.ofNat (0x10000 + (high - 0xD800) * 0x400 + (low - 0xDC00))) 11
                  else go (unitChar high) 5
              | _, _ => go (unitChar high) 5
        | e :: _ =>
          match plainEscape? e with
          | some out => go out 1
          | none => .error ⟨.escape, position⟩
      else if c.toNat < 32 then .error ⟨.control, position⟩
      else go c 0

/-- The digits of a fraction, with its point; nothing where no digit follows a point. -/
def fractionOf : List Char → List Char × List Char
  | '.' :: c :: cs =>
    if c.isDigit then ('.' :: c :: cs.takeWhile Char.isDigit, cs.dropWhile Char.isDigit)
    else ([], '.' :: c :: cs)
  | cs => ([], cs)

/-- An exponent; nothing where it has no digits. -/
def exponentOf (cs : List Char) : List Char × List Char :=
  match cs with
  | c :: rest =>
    if c = 'e' ∨ c = 'E' then
      let (sign, rest) := match rest with
        | '-' :: r => (['-'], r)
        | '+' :: r => (['+'], r)
        | r => ([], r)
      let digits := rest.takeWhile Char.isDigit
      if digits.isEmpty then ([], cs)
      else (c :: sign ++ digits, rest.dropWhile Char.isDigit)
    else ([], cs)
  | [] => ([], [])

/-- A number, or the word for a negative infinity. -/
def numberFrom (position : Nat) (cs : List Char) : Except JsonError (Value × Rest) :=
  let (negative, unsigned) := match cs with
    | '-' :: rest => (true, rest)
    | rest => (false, rest)
  let (whole, rest) := match unsigned with
    | '0' :: rest => (['0'], rest)
    | rest => (rest.takeWhile Char.isDigit, rest.dropWhile Char.isDigit)
  if whole.isEmpty then .error ⟨.value, position⟩
  else
    let (fraction, rest) := fractionOf rest
    let (exponent, rest) := exponentOf rest
    let sign := if negative then 1 else 0
    let length := sign + whole.length + fraction.length + exponent.length
    let after : Rest := ⟨position + length, rest⟩
    if fraction.isEmpty && exponent.isEmpty then
      if 4300 < whole.length then .error ⟨.integerTooLong, position⟩
      else
        let n : Int := Decimal.valueOf (Decimal.spanDigits whole).1
        .ok (.int (if negative then -n else n), after)
    else
      match Decimal.unsigned? negative (whole ++ fraction ++ exponent) with
      | some x => .ok (.float x, after)
      | none => .error ⟨.value, position⟩

/-- The words that are values. -/
def wordValues : List (String × Value) :=
  [("null", .null), ("true", .bool true), ("false", .bool false), ("NaN", .float (.nan 0)),
   ("Infinity", .float (.infinite false)), ("-Infinity", .float (.infinite true))]

/-- A word at the front of the text. -/
def wordFrom? (position : Nat) (cs : List Char) : Option (Value × Rest) :=
  wordValues.findSome? fun (word, v) =>
    if word.toList.isPrefixOf cs then some (v, ⟨position + word.length, cs.drop word.length⟩)
    else none

mutual

/-- A value at the front of the text. -/
def valueFrom (fuel : Nat) (r : Rest) : Except JsonError (Value × Rest) :=
  match fuel with
  | 0 => .error ⟨.value, r.position⟩
  | fuel + 1 =>
    match r.chars with
    | [] => .error ⟨.value, r.position⟩
    | c :: cs =>
      let next : Rest := ⟨r.position + 1, cs⟩
      if c = '"' then do
        let (content, rest) ← stringFrom r.position 0 next.position cs
        pure (.text (String.ofList content), rest)
      else if c = '\x7b' then
        let inner := next.trim
        match inner.chars with
        | '\x7d' :: rest => .ok (.object [], ⟨inner.position + 1, rest⟩)
        | _ => membersFrom fuel [] inner
      else if c = '[' then
        let inner := next.trim
        match inner.chars with
        | ']' :: rest => .ok (.list [], ⟨inner.position + 1, rest⟩)
        | _ => itemsFrom fuel [] inner
      else
        match wordFrom? r.position r.chars with
        | some found => .ok found
        | none => numberFrom r.position r.chars

/-- The items of a list up to its closing bracket, after those in `items`, latest first. -/
def itemsFrom (fuel : Nat) (items : List Value) (r : Rest) : Except JsonError (Value × Rest) :=
  match fuel with
  | 0 => .error ⟨.value, r.position⟩
  | fuel + 1 => do
    let (v, rest) ← valueFrom fuel r
    let rest := rest.trim
    match rest.chars with
    | ']' :: cs => pure (.list (v :: items).reverse, ⟨rest.position + 1, cs⟩)
    | ',' :: cs => itemsFrom fuel (v :: items) (Rest.trim ⟨rest.position + 1, cs⟩)
    | _ => .error ⟨.comma, rest.position⟩

/-- The members of an object up to its closing brace, after those in `members`. -/
def membersFrom (fuel : Nat) (members : List (String × Value)) (r : Rest) : Except JsonError (Value × Rest) :=
  match fuel with
  | 0 => .error ⟨.value, r.position⟩
  | fuel + 1 =>
    match r.chars with
    | '"' :: cs => do
      let (key, rest) ← stringFrom r.position 0 (r.position + 1) cs
      let rest := rest.trim
      match rest.chars with
      | ':' :: cs =>
        let (v, rest) ← valueFrom fuel (Rest.trim ⟨rest.position + 1, cs⟩)
        let rest := rest.trim
        let members := put (String.ofList key) v members
        match rest.chars with
        | '\x7d' :: cs => pure (.object members, ⟨rest.position + 1, cs⟩)
        | ',' :: cs => membersFrom fuel members (Rest.trim ⟨rest.position + 1, cs⟩)
        | _ => .error ⟨.comma, rest.position⟩
      | _ => .error ⟨.colon, rest.position⟩
    | _ => .error ⟨.propertyName, r.position⟩

end

/-- Reads a JSON text. -/
def read (json : List Char) : Except JsonError Value := do
  if (json.head?.any fun c => c.toNat == 0xFEFF) then throw ⟨.byteOrderMark, 0⟩
  let (v, rest) ← valueFrom (2 * json.length + 2) (Rest.trim ⟨0, json⟩)
  let rest := rest.trim
  if rest.chars.isEmpty then pure v else throw ⟨.extra, rest.position⟩

/-- Whether a text is JSON. -/
def isJson (json : List Char) : Bool :=
  match read json with
  | .ok _ => true
  | .error _ => false

/-- The message of a fault with its line, its column and its position in the text. -/
def JsonError.message (e : JsonError) (json : List Char) : String :=
  let before := json.take e.position
  let line := before.count '\n' + 1
  let column := (before.reverse.takeWhile (· != '\n')).length + 1
  let fault := e.fault.message
  let position := e.position
  s!"{fault}: line {line} column {column} (char {position})"

end Formwork.Value
