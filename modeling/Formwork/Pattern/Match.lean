import Formwork.Pattern.Basic

/-!
Matching by backtracking: a node is tried in front of a continuation, and the first choice that the
continuation accepts wins.
-/
namespace Formwork.Pattern
open Formwork.Text

/-- A position in a text, and the texts of the groups that have matched, latest first. -/
structure Cursor where
  /-- The characters before the position, nearest first. -/
  before : List Char
  after : List Char
  position : Nat
  captured : List (Nat × List Char)
  deriving DecidableEq, Repr

namespace Cursor

def ofText (text : List Char) : Cursor := ⟨[], text, 0, []⟩

/-- One character on. -/
def advance (c : Cursor) : Cursor :=
  match c.after with
  | [] => c
  | x :: xs => { c with before := x :: c.before, after := xs, position := c.position + 1 }

/-- `n` characters back. -/
def retreat : Nat → Cursor → Option Cursor
  | 0, c => some c
  | n + 1, c =>
    match c.before with
    | [] => none
    | x :: xs => retreat n { c with before := xs, after := x :: c.after, position := c.position - 1 }

/-- The word class on the two sides of the position differs. -/
def atWordEdge (ascii : Bool) (c : Cursor) : Bool :=
  let word (x : Option Char) := x.any fun x => Category.holds ascii x .word
  word c.before.head? != word c.after.head?

/-- Whether the text has any character. -/
def hasText (c : Cursor) : Bool := !(c.before.isEmpty && c.after.isEmpty)

def meets (c : Cursor) : Anchor → Bool
  | .textStart => c.before.isEmpty
  | .textEnd => c.after.isEmpty
  | .closing => c.after.isEmpty || c.after == ['\n']
  | .lineStart => c.before.isEmpty || c.before.head? == some '\n'
  | .lineEnd => c.after.isEmpty || c.after.head? == some '\n'
  | .wordEdge ascii => c.hasText && c.atWordEdge ascii
  | .noWordEdge ascii => c.hasText && !c.atWordEdge ascii

/-- The cursor after the characters of `text`, compared by `fold`. -/
def skipText (fold : Fold) : List Char → Cursor → Option Cursor
  | [], c => some c
  | t :: ts, c =>
    match c.after with
    | [] => none
    | x :: _ => if fold.lower t.toNat = fold.lower x.toNat then skipText fold ts c.advance else none

end Cursor

/-- What is to match after a node. -/
abbrev Continuation := Cursor → Option Cursor

/-- Rounds of `step` before `next`, as many as possible first. A round that may be left out is not
begun where the round before it began. -/
def greedyRounds (step : Cursor → Continuation → Option Cursor) (next : Continuation) :
    (fuel min : Nat) → (max : Option Nat) → (last : Option Nat) → Continuation
  | 0, _, _, _, c => next c
  | fuel + 1, min, max, last, c =>
    if 0 < min then
      step c (greedyRounds step next fuel (min - 1) (max.map (· - 1)) last)
    else if max ≠ some 0 ∧ last ≠ some c.position then
      (step c (greedyRounds step next fuel 0 (max.map (· - 1)) (some c.position))).orElse
        fun _ => next c
    else next c

/-- Rounds of `step` before `next`, as few as possible first. -/
def lazyRounds (step : Cursor → Continuation → Option Cursor) (next : Continuation) :
    (fuel min : Nat) → (max : Option Nat) → (last : Option Nat) → Continuation
  | 0, _, _, _, c => next c
  | fuel + 1, min, max, last, c =>
    if 0 < min then
      step c (lazyRounds step next fuel (min - 1) (max.map (· - 1)) last)
    else
      (next c).orElse fun _ =>
        if max ≠ some 0 ∧ last ≠ some c.position then
          step c (lazyRounds step next fuel 0 (max.map (· - 1)) (some c.position))
        else none

/-- As many rounds of `step` as there are, each settled by itself. -/
def possessiveRounds (step : Cursor → Continuation → Option Cursor) :
    (fuel min : Nat) → (max : Option Nat) → (last : Option Nat) → Cursor → Option Cursor
  | 0, _, _, _, c => some c
  | fuel + 1, min, max, last, c =>
    if 0 < min then
      (step c some).bind (possessiveRounds step fuel (min - 1) (max.map (· - 1)) last)
    else if max ≠ some 0 ∧ last ≠ some c.position then
      match step c some with
      | some d => possessiveRounds step fuel 0 (max.map (· - 1)) (some c.position) d
      | none => some c
    else some c

/-- The cursor at which `next` ends, after a match of the node at `c`. -/
def Node.run : Node → Cursor → Continuation → Option Cursor
  | .empty, c, next => next c
  | .char set, c, next =>
    match c.after with
    | x :: _ => if set.holds x then next c.advance else none
    | [] => none
  | .dot lineFeeds, c, next =>
    match c.after with
    | x :: _ => if lineFeeds || x != '\n' then next c.advance else none
    | [] => none
  | .anchor condition, c, next => if c.meets condition then next c else none
  | .seq a b, c, next => a.run c fun d => b.run d next
  | .alt a b, c, next => (a.run c next).orElse fun _ => b.run c next
  | .loop mode min max body, c, next =>
    let fuel := min + c.after.length + 2
    match mode with
    | .greedy => greedyRounds body.run next fuel min max none c
    | .lazy => lazyRounds body.run next fuel min max none c
    | .possessive => (possessiveRounds body.run fuel min max none c).bind next
  | .scope body, c, next => body.run c next
  | .capture group body, c, next =>
    body.run c fun d =>
      let text := (d.before.take (d.position - c.position)).reverse
      next { d with captured := (group, text) :: d.captured }
  | .atomic body, c, next => (body.run c some).bind next
  | .ahead negated body, c, next =>
    match body.run c some, negated with
    | some d, false => next { c with captured := d.captured }
    | none, true => next c
    | _, _ => none
  | .behind negated width body, c, next =>
    match (c.retreat width).bind fun b => body.run b some, negated with
    | some d, false => next { c with captured := d.captured }
    | none, true => next c
    | _, _ => none
  | .backref group fold _, c, next =>
    match c.captured.lookup group with
    | some text => (c.skipText fold text).bind next
    | none => none
  | .branch group yes no, c, next =>
    if (c.captured.lookup group).isSome then yes.run c next else no.run c next

/-- Whether the node matches at `c` or at a later position of its text. -/
def Node.foundFrom (node : Node) (before : List Char) (position : Nat) : List Char → Bool
  | [] => (node.run ⟨before, [], position, []⟩ some).isSome
  | x :: xs =>
    (node.run ⟨before, x :: xs, position, []⟩ some).isSome ||
      node.foundFrom (x :: before) (position + 1) xs

/-- Whether the node matches somewhere in the text. -/
def Node.foundIn (node : Node) (text : List Char) : Bool := node.foundFrom [] 0 text

end Formwork.Pattern
