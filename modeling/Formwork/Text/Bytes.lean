import Formwork.Text.Quoted

/-!
Text in UTF-8, read strictly. A machine takes one byte at a time; it knows how many bytes the
character at hand still owes, and between which bounds the next of them lies.
-/
namespace Formwork.Text

/-- Why bytes are no text. -/
inductive ByteReason
  /-- A byte that begins no character. -/
  | badStart
  /-- A byte that does not go on with the character at hand. -/
  | badTail
  | ended
  deriving DecidableEq, Repr

/-- The run of bytes that is no text: the first of them, where it stands, and how many they are. -/
structure ByteFault where
  reason : ByteReason
  first : UInt8
  position : Nat
  length : Nat
  deriving DecidableEq, Repr

def ByteReason.text : ByteReason → String
  | .badStart => "invalid start byte"
  | .badTail => "invalid continuation byte"
  | .ended => "unexpected end of data"

def ByteFault.message (f : ByteFault) : String :=
  let last := f.position + f.length - 1
  let place :=
    if f.length = 1 then
      let hex := String.ofList (hexDigits 2 f.first.toNat)
      s!"byte 0x{hex} in position {last}"
    else
      let start := f.position
      s!"bytes in position {start}-{last}"
  "'utf-8' codec can't decode " ++ place ++ ": " ++ f.reason.text

/-- A character at hand: its first byte and where it stands, the bytes read of it, the bits they
hold, the bytes it owes, and the bounds of the next of them. -/
structure Partial where
  first : UInt8
  position : Nat
  taken : Nat
  bits : Nat
  owed : Nat
  low : Nat
  high : Nat

def Partial.fault (p : Partial) (reason : ByteReason) : ByteFault :=
  ⟨reason, p.first, p.position, p.taken⟩

/-- The character that a byte begins, or the byte itself where it is a whole one. -/
def startByte (position : Nat) (b : UInt8) : Except ByteFault (Char ⊕ Partial) :=
  let n := b.toNat
  let begin_ (bits owed low high : Nat) : Except ByteFault (Char ⊕ Partial) :=
    .ok (.inr ⟨b, position, 1, bits, owed, low, high⟩)
  if n < 0x80 then .ok (.inl (Char.ofNat n))
  else if n < 0xC2 then .error ⟨.badStart, b, position, 1⟩
  else if n < 0xE0 then begin_ (n - 0xC0) 1 0x80 0xBF
  else if n = 0xE0 then begin_ 0 2 0xA0 0xBF
  else if n = 0xED then begin_ 0xD 2 0x80 0x9F
  else if n < 0xF0 then begin_ (n - 0xE0) 2 0x80 0xBF
  else if n = 0xF0 then begin_ 0 3 0x90 0xBF
  else if n < 0xF4 then begin_ (n - 0xF0) 3 0x80 0xBF
  else if n = 0xF4 then begin_ 4 3 0x80 0x8F
  else .error ⟨.badStart, b, position, 1⟩

/-- Reads bytes from a position, in the middle of a character or between two. -/
def decodeFrom (position : Nat) (at_ : Option Partial) : List UInt8 → Except ByteFault (List Char)
  | [] =>
    match at_ with
    | none => .ok []
    | some p => .error (p.fault .ended)
  | b :: bs =>
    match at_ with
    | none => do
      match ← startByte position b with
      | .inl c => pure (c :: (← decodeFrom (position + 1) none bs))
      | .inr p => decodeFrom (position + 1) (some p) bs
    | some p =>
      let n := b.toNat
      if n < p.low || p.high < n then .error (p.fault .badTail)
      else
        let bits := p.bits * 64 + (n - 0x80)
        if p.owed = 1 then do
          pure (Char.ofNat bits :: (← decodeFrom (position + 1) none bs))
        else
          decodeFrom (position + 1)
            (some { p with taken := p.taken + 1, bits, owed := p.owed - 1, low := 0x80, high := 0xBF })
            bs

/-- The text that bytes spell. -/
def decodeBytes (bytes : List UInt8) : Except ByteFault (List Char) := decodeFrom 0 none bytes

/-- Every line end becomes a line feed. -/
def unifyLineEnds : List Char → List Char
  | '\r' :: '\n' :: cs => '\n' :: unifyLineEnds cs
  | '\r' :: cs => '\n' :: unifyLineEnds cs
  | c :: cs => c :: unifyLineEnds cs
  | [] => []

/-- The text of a file: its bytes as text, with line feeds as the only line ends. -/
def fileText (bytes : List UInt8) : Except ByteFault (List Char) :=
  (decodeBytes bytes).map unifyLineEnds

end Formwork.Text
