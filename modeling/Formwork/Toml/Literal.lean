import Formwork.Toml.Datum

/-!
Literals of TOML: strings, numbers, dates and times. A reader takes the text from where the literal
begins, and returns the rest of the text after it.
-/
namespace Formwork.Toml

/-- Why a text is no TOML document. -/
inductive Fault
  | malformed
  /-- A whole number of more than 4300 digits, which is not read. -/
  | integerTooLong
  deriving DecidableEq, Repr

def malformed {α : Type} : Except Fault α := .error .malformed

/-- Control characters, which may not stand in text as such; a tab may. -/
def isControl (c : Char) : Bool := (c.toNat < 32 && c != '\t') || c.toNat == 127

def isSpace (c : Char) : Bool := c == ' ' || c == '\t'

def isSpaceOrBreak (c : Char) : Bool := isSpace c || c == '\n'

def isHexDigit (c : Char) : Bool :=
  c.isDigit || ('a' ≤ c && c ≤ 'f') || ('A' ≤ c && c ≤ 'F')

def hexValue (c : Char) : Nat :=
  if c.isDigit then c.toNat - 48 else c.toLower.toNat - 87

/-! ### Strings -/

/-- The text between apostrophes, after the first of them. -/
def literalString (multiline : Bool) (close : List Char) :
    List Char → Except Fault (List Char × List Char)
  | [] => malformed
  | c :: cs =>
    if close.isPrefixOf (c :: cs) then .ok ([], (c :: cs).drop close.length)
    else if isControl c && !(multiline && c == '\n') then malformed
    else do
      let (text, rest) ← literalString multiline close cs
      pure (c :: text, rest)

/-- The character that a letter after a backslash stands for. -/
def escape? : Char → Option Char
  | 'b' => some '\x08'
  | 't' => some '\t'
  | 'n' => some '\n'
  | 'f' => some '\x0c'
  | 'r' => some '\r'
  | '"' => some '"'
  | '\\' => some '\\'
  | _ => none

/-- The character with a code of so many hexadecimal digits. -/
def codeChar? (size : Nat) (cs : List Char) : Option Char :=
  let digits := cs.take size
  if digits.length = size && digits.all isHexDigit then
    let n := digits.foldl (fun n c => n * 16 + hexValue c) 0
    if n < 0xD800 || (0xE000 ≤ n && n ≤ 0x10FFFF) then some (Char.ofNat n) else none
  else none

/-- How many characters an escaped line break takes: spaces up to the end of the line, and all
white space after it. Spaces up to the end of the text are taken as well. -/
def breakLength? (cs : List Char) : Option Nat :=
  let spaces := (cs.takeWhile isSpace).length
  match cs.drop spaces with
  | [] => some spaces
  | '\n' :: rest => some (spaces + 1 + (rest.takeWhile isSpaceOrBreak).length)
  | _ => none

/-- What a backslash and the text after it stand for, and how many characters it takes. -/
def escapeAt (multiline : Bool) : List Char → Except Fault (List Char × Nat)
  | [] => malformed
  | c :: cs =>
    if multiline && isSpaceOrBreak c then
      match breakLength? (c :: cs) with
      | some n => .ok ([], n)
      | none => malformed
    else if c = 'u' then
      match codeChar? 4 cs with
      | some d => .ok ([d], 5)
      | none => malformed
    else if c = 'U' then
      match codeChar? 8 cs with
      | some d => .ok ([d], 9)
      | none => malformed
    else
      match escape? c with
      | some d => .ok ([d], 1)
      | none => malformed

/-- The text between quotes, after the first of them; the first `skip` characters belong to an
escape that was read already. -/
def basicString (multiline : Bool) (skip : Nat) : List Char → Except Fault (List Char × List Char)
  | [] => malformed
  | c :: cs =>
    match skip with
    | s + 1 => basicString multiline s cs
    | 0 =>
      if !multiline && c = '"' then .ok ([], cs)
      else if multiline && ['"', '"', '"'].isPrefixOf (c :: cs) then .ok ([], cs.drop 2)
      else if c = '\\' then do
        let (chars, n) ← escapeAt multiline cs
        let (text, rest) ← basicString multiline n cs
        pure (chars ++ text, rest)
      else if isControl c && !(multiline && c == '\n') then malformed
      else do
        let (text, rest) ← basicString multiline 0 cs
        pure (c :: text, rest)

/-- A text of several lines; up to two more quotes at its end belong to it, and a line break at its
start does not. -/
def multilineString (quote : Char) (cs : List Char) : Except Fault (List Char × List Char) := do
  let cs := if cs.head? = some '\n' then cs.drop 1 else cs
  let (text, rest) ←
    if quote = '"' then basicString true 0 cs else literalString true [quote, quote, quote] cs
  let extra := (rest.take 2).takeWhile (· == quote)
  pure (text ++ extra, rest.drop extra.length)

/-- A text, from its first quote. -/
def stringLiteral (quote : Char) (cs : List Char) : Except Fault (List Char × List Char) :=
  if [quote, quote, quote].isPrefixOf cs then multilineString quote (cs.drop 3)
  else if quote = '"' then basicString false 0 (cs.drop 1)
  else literalString false [quote] (cs.drop 1)

/-! ### Numbers -/

/-- The length of a run of digits with single underscores between them. -/
def digitRun (isDigit : Char → Bool) : List Char → Nat
  | [] => 0
  | '_' :: c :: cs => if isDigit c then 2 + digitRun isDigit cs else 0
  | c :: cs => if isDigit c then 1 + digitRun isDigit cs else 0

/-- The length of a run of digits that begins with one. -/
def digits (isDigit : Char → Bool) (cs : List Char) : Nat :=
  if cs.head?.any isDigit then digitRun isDigit cs else 0

/-- The base that a letter after a zero stands for, and its digits. -/
def base? : Char → Option (Nat × (Char → Bool))
  | 'x' => some (16, isHexDigit)
  | 'o' => some (8, fun c => '0' ≤ c && c ≤ '7')
  | 'b' => some (2, fun c => c == '0' || c == '1')
  | _ => none

/-- A number with a base of its own. -/
def prefixed? : List Char → Option (Datum × List Char)
  | '0' :: c :: cs => do
    let (base, isDigit) ← base? c
    let n := digits isDigit cs
    if n = 0 then none
    else
      let value := ((cs.take n).filter (· != '_')).foldl (fun n c => n * base + hexValue c) 0
      some (.int value, cs.drop n)
  | _ => none

/-- The length of a fraction with its point. -/
def fractionLength : List Char → Nat
  | '.' :: cs =>
    let n := digits Char.isDigit cs
    if n = 0 then 0 else n + 1
  | _ => 0

/-- The length of an exponent with its letter. -/
def exponentLength : List Char → Nat
  | c :: cs =>
    if c = 'e' || c = 'E' then
      let sign := if cs.head? = some '+' || cs.head? = some '-' then 1 else 0
      let n := digits Char.isDigit (cs.drop sign)
      if n = 0 then 0 else 1 + sign + n
    else 0
  | [] => 0

/-- The length of the whole part of a decimal number: a zero, or digits that begin with another
one. -/
def wholeLength (cs : List Char) : Nat :=
  if cs.head? = some '0' then 1 else digits Char.isDigit cs

/-- A decimal number. -/
def decimal? (cs : List Char) : Except Fault (Option (Datum × List Char)) :=
  let sign := if cs.head? = some '+' || cs.head? = some '-' then 1 else 0
  let negative := cs.head? = some '-'
  let whole := wholeLength (cs.drop sign)
  if whole = 0 then .ok none
  else
    let rest := cs.drop (sign + whole)
    let fraction := fractionLength rest
    let exponent := exponentLength (rest.drop fraction)
    let plain (n : Nat) := ((cs.drop sign).take n).filter (· != '_')
    if fraction + exponent = 0 then
      let ds := plain whole
      if 4300 < ds.length then .error .integerTooLong
      else
        let n : Int := Decimal.valueOf (Decimal.spanDigits ds).1
        .ok (some (.int (if negative then -n else n), rest))
    else
      let x := Decimal.unsigned? negative (plain (whole + fraction + exponent))
      .ok (some (.float (x.getD (.nan 0)), rest.drop (fraction + exponent)))

/-- The infinities and the value that is no number. -/
def specialNumbers : List (String × Binary64) :=
  [("inf", .infinite false), ("+inf", .infinite false), ("-inf", .infinite true), ("nan", .nan 0),
   ("+nan", .nan 0), ("-nan", .nan 0)]

def special? (cs : List Char) : Option (Datum × List Char) :=
  (specialNumbers.find? fun (word, _) => word.toList.isPrefixOf cs).map fun (word, x) =>
    (.float x, cs.drop word.length)

/-! ### Dates and times -/

/-- A number of so many digits between bounds. -/
def number? (size low high : Nat) (cs : List Char) : Option (Nat × List Char) :=
  let ds := cs.take size
  if ds.length = size && ds.all Char.isDigit then
    let n := ds.foldl (fun n c => n * 10 + (c.toNat - 48)) 0
    if low ≤ n && n ≤ high then some (n, cs.drop size) else none
  else none

def skip? (c : Char) : List Char → Option (List Char)
  | d :: cs => if d = c then some cs else none
  | [] => none

/-- The fraction of a second in millionths; further digits are passed over. -/
def micro (cs : List Char) : Nat × List Char :=
  match cs with
  | '.' :: rest =>
    let ds := rest.takeWhile Char.isDigit
    if ds.isEmpty then (0, cs)
    else
      let six := (ds ++ List.replicate 6 '0').take 6
      (six.foldl (fun n c => n * 10 + (c.toNat - 48)) 0, rest.dropWhile Char.isDigit)
  | _ => (0, cs)

def time? (cs : List Char) : Option (Time × List Char) := do
  let (hour, cs) ← number? 2 0 23 cs
  let (minute, cs) ← number? 2 0 59 (← skip? ':' cs)
  let (second, cs) ← number? 2 0 59 (← skip? ':' cs)
  let (fraction, cs) := micro cs
  pure (⟨hour, minute, second, fraction⟩, cs)

def zone? (cs : List Char) : Option (Zone × List Char) :=
  match cs with
  | c :: rest =>
    if c = 'Z' || c = 'z' then some (.utc, rest)
    else if c = '+' || c = '-' then do
      let (hour, rest) ← number? 2 0 23 rest
      let (minute, rest) ← number? 2 0 59 (← skip? ':' rest)
      let n : Int := hour * 60 + minute
      pure (.offset (if c = '-' then -n else n), rest)
    else none
  | [] => none

def isLeap (year : Nat) : Bool := year % 4 == 0 && (year % 100 != 0 || year % 400 == 0)

def daysIn (year month : Nat) : Nat :=
  if month = 2 then (if isLeap year then 29 else 28)
  else if [4, 6, 9, 11].contains month then 30
  else 31

/-- Whether a date is one of the calendar; there is no year zero. -/
def Date.isValid (d : Date) : Bool := d.year != 0 && d.day ≤ daysIn d.year d.month

def date? (cs : List Char) : Option (Date × List Char) := do
  let (year, cs) ← number? 4 0 9999 cs
  let (month, cs) ← number? 2 1 12 (← skip? '-' cs)
  let (day, cs) ← number? 2 1 31 (← skip? '-' cs)
  pure (⟨year, month, day⟩, cs)

/-- A time with or without a zone, after a date and a separator. -/
def clock? : List Char → Option (Time × Option Zone × List Char)
  | c :: cs => do
    if c = 'T' || c = 't' || c = ' ' then
      let (time, rest) ← time? cs
      match zone? rest with
      | some (zone, rest) => pure (time, some zone, rest)
      | none => pure (time, none, rest)
    else none
  | [] => none

/-- A date, a moment or a time. -/
def moment? (cs : List Char) : Except Fault (Option (Datum × List Char)) :=
  match date? cs with
  | some (date, rest) =>
    if !date.isValid then malformed
    else match clock? rest with
      | some (time, zone, rest) => .ok (some (.moment date time zone, rest))
      | none => .ok (some (.date date, rest))
  | none => .ok ((time? cs).map fun (time, rest) => (.time time, rest))

/-- A literal that is no text: a truth value, a moment or a number. -/
def plainLiteral (cs : List Char) : Except Fault (Datum × List Char) := do
  if "true".toList.isPrefixOf cs then return (.bool true, cs.drop 4)
  if "false".toList.isPrefixOf cs then return (.bool false, cs.drop 5)
  match ← moment? cs with
  | some r => pure r
  | none =>
    match prefixed? cs with
    | some r => pure r
    | none =>
      match ← decimal? cs with
      | some r => pure r
      | none =>
        match special? cs with
        | some r => pure r
        | none => malformed

end Formwork.Toml
