import Formwork.Text.Blank

/-!
Fenced code blocks of running text. A text is balanced when every block that is opened is closed.
-/
namespace Formwork.Record
open Formwork.Text

/-- The characters that make fences. -/
inductive FenceMark
  | backtick
  | tilde
  deriving DecidableEq, Repr

def FenceMark.char : FenceMark → Char
  | .backtick => '\x60'
  | .tilde => '~'

def FenceMark.ofChar? (c : Char) : Option FenceMark :=
  if c = FenceMark.char .backtick then some .backtick
  else if c = FenceMark.char .tilde then some .tilde
  else none

/-- A run of three or more marks at the front of a line, and the text after it. -/
structure Fence where
  mark : FenceMark
  length : Nat
  info : List Char
  deriving DecidableEq, Repr

namespace Fence

/-- The fence that a line without indentation begins with. -/
def atFront? (line : List Char) : Option Fence := do
  let mark ← FenceMark.ofChar? (← line.head?)
  let run := line.takeWhile (· == mark.char)
  if run.length < 3 then none
  else some ⟨mark, run.length, line.dropWhile (· == mark.char)⟩

/-- The fence that a line begins with, after at most three spaces. -/
def ofLine? (line : List Char) : Option Fence :=
  let indent := (line.takeWhile (· == ' ')).length
  if 3 < indent then none else atFront? (line.drop indent)

/-- Whether a fence ends the block that `opening` began: it has the same mark, is at least as long,
and nothing but white space follows it. -/
def closes (opening fence : Fence) : Bool :=
  fence.mark == opening.mark && opening.length ≤ fence.length && (strip fence.info).isEmpty

/-- The block that is open after a line. -/
def after (opening : Option Fence) (line : List Char) : Option Fence :=
  match ofLine? line, opening with
  | none, _ => opening
  | some fence, none => some fence
  | some fence, some opening => if closes opening fence then none else some opening

end Fence

/-- Whether every fenced code block of a text is closed. -/
def fencesBalanced (text : List Char) : Bool :=
  ((lines text).foldl Fence.after none).isNone

end Formwork.Record
