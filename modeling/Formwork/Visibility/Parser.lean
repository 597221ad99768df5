import Formwork.Number.Reading
import Formwork.Visibility.Expr
import Formwork.Visibility.Token

/-!
Reading visibility conditions. The grammar, with the loosest binding first:

    disjunction := conjunction ("or" conjunction)*
    conjunction := negation ("and" negation)*
    negation    := "not" negation | comparison
    comparison  := operand (relation operand | "not"? "in" list | "is" "not"? "null")?
    operand     := "(" disjunction ")" | "-"? number | string | "true" | "false" | "null"
                 | name ("." name)*
    list        := "[" (disjunction ("," disjunction)*)? "]"
-/
namespace Formwork.Visibility
open Formwork.Text

/-- Why a text is no condition. -/
inductive ParseError
  | token (error : TokenError)
  /-- Something else was expected; `what` is the expected value, or a kind of token. -/
  | expected (what : String) (found : Token)
  | trailing (found : Token)
  | unexpected (found : Token)
  /-- A whole number of more than 4300 digits, which is not read. -/
  | numberTooLong
  deriving DecidableEq, Repr

/-- A token as messages show it. -/
def Token.describe (t : Token) : String :=
  if t.kind = .eof then "end of input" else String.ofList (quoted t.value.toList)

namespace ParseError

def message : ParseError → String
  | .token e => e.message
  | .expected what found =>
    "Expected " ++ String.ofList (quoted what.toList) ++ ", got " ++ found.describe
  | .trailing found => "Unexpected " ++ found.describe ++ " after expression"
  | .unexpected found => "Unexpected " ++ found.describe
  | .numberTooLong => "Exceeds the limit (4300 digits) for integer string conversion"

def position : ParseError → Nat
  | .token e => e.position
  | .expected _ found | .trailing found | .unexpected found => found.position
  | .numberTooLong => 0

end ParseError

/-- The number that a token spells, with or without a minus sign before it. -/
def numberValue (negative : Bool) (text : String) : Except ParseError Value :=
  let cs := text.toList
  if cs.contains '.' then
    .ok (.float ((Decimal.unsigned? negative cs).getD (.nan 0)))
  else if 4300 < cs.length then .error .numberTooLong
  else
    let n : Int := Decimal.valueOf (Decimal.spanDigits cs).1
    .ok (.int (if negative then -n else n))

/-- The token that comes next; the last token of a list stands for the end. -/
def peek (ts : List Token) : Token := ts.head?.getD ⟨.eof, "", 0⟩

/-- The tokens after the next; the end is never passed. -/
def advance : List Token → List Token
  | [] => []
  | t :: ts => if t.kind = .eof then t :: ts else ts

def Token.is (t : Token) (kind : TokenKind) (value : String) : Bool :=
  t.kind == kind && t.value == value

/-- Whether a token comes next. -/
def comes (kind : TokenKind) (value : String) (ts : List Token) : Bool := (peek ts).is kind value

/-- The tokens after one that must come next. -/
def need (kind : TokenKind) (value : String) (ts : List Token) : Except ParseError (List Token) :=
  if comes kind value ts then .ok (advance ts) else .error (.expected value (peek ts))

/-- A token of a kind that must come next, and the tokens after it. -/
def needKind (kind : TokenKind) (ts : List Token) :
    Except ParseError (String × List Token) :=
  if (peek ts).kind = kind then .ok ((peek ts).value, advance ts)
  else .error (.expected kind.text (peek ts))

/-- The names after the points that come next; `fuel` bounds their number. -/
def pathTail : (fuel : Nat) → List Token → Except ParseError (List String × List Token)
  | 0, ts => .ok ([], ts)
  | fuel + 1, ts =>
    if comes .op "." ts then do
      let (name, ts) ← needKind .name (advance ts)
      let (names, ts) ← pathTail fuel ts
      pure (name :: names, ts)
    else .ok ([], ts)

def constant? : String → Option Value
  | "true" => some (.bool true)
  | "false" => some (.bool false)
  | "null" => some .null
  | _ => none

def compareOp? (t : Token) : Option CompareOp :=
  if t.kind = .op then CompareOp.all.find? (·.text == t.value) else none

/-- A chain of operands; a single one stands for itself. -/
def chain (op : LogicalOp) : List Expr → Expr
  | [e] => e
  | es => .logical op es

mutual

def disjunction (fuel : Nat) (ts : List Token) : Except ParseError (Expr × List Token) :=
  match fuel with
  | 0 => .error (.unexpected (peek ts))
  | fuel + 1 => do
    let (e, ts) ← conjunction fuel ts
    let (es, ts) ← moreConjunctions fuel ts
    pure (chain .or (e :: es), ts)

/-- The conjunctions after each `or` that comes next. -/
def moreConjunctions (fuel : Nat) (ts : List Token) : Except ParseError (List Expr × List Token) :=
  match fuel with
  | 0 => .error (.unexpected (peek ts))
  | fuel + 1 =>
    if comes .keyword "or" ts then do
      let (e, ts) ← conjunction fuel (advance ts)
      let (es, ts) ← moreConjunctions fuel ts
      pure (e :: es, ts)
    else .ok ([], ts)

def conjunction (fuel : Nat) (ts : List Token) : Except ParseError (Expr × List Token) :=
  match fuel with
  | 0 => .error (.unexpected (peek ts))
  | fuel + 1 => do
    let (e, ts) ← negation fuel ts
    let (es, ts) ← moreNegations fuel ts
    pure (chain .and (e :: es), ts)

/-- The negations after each `and` that comes next. -/
def moreNegations (fuel : Nat) (ts : List Token) : Except ParseError (List Expr × List Token) :=
  match fuel with
  | 0 => .error (.unexpected (peek ts))
  | fuel + 1 =>
    if comes .keyword "and" ts then do
      let (e, ts) ← negation fuel (advance ts)
      let (es, ts) ← moreNegations fuel ts
      pure (e :: es, ts)
    else .ok ([], ts)

def negation (fuel : Nat) (ts : List Token) : Except ParseError (Expr × List Token) :=
  match fuel with
  | 0 => .error (.unexpected (peek ts))
  | fuel + 1 =>
    if comes .keyword "not" ts then do
      let (e, ts) ← negation fuel (advance ts)
      pure (.not e, ts)
    else comparison fuel ts

def comparison (fuel : Nat) (ts : List Token) : Except ParseError (Expr × List Token) :=
  match fuel with
  | 0 => .error (.unexpected (peek ts))
  | fuel + 1 => do
    let (left, ts) ← operand fuel ts
    match compareOp? (peek ts) with
    | some op =>
      let (right, ts) ← operand fuel (advance ts)
      pure (.compare op left right, ts)
    | none =>
      if comes .keyword "is" ts then
        let ts := advance ts
        let negated := comes .keyword "not" ts
        let ts ← need .keyword "null" (if negated then advance ts else ts)
        pure (.isNull left negated, ts)
      else if comes .keyword "not" ts && comes .keyword "in" (advance ts) then
        let (items, ts) ← list fuel (advance (advance ts))
        pure (.member left items true, ts)
      else if comes .keyword "in" ts then
        let (items, ts) ← list fuel (advance ts)
        pure (.member left items false, ts)
      else pure (left, ts)

def operand (fuel : Nat) (ts : List Token) : Except ParseError (Expr × List Token) :=
  match fuel with
  | 0 => .error (.unexpected (peek ts))
  | fuel + 1 =>
    let t := peek ts
    let ts := advance ts
    match t.kind with
    | .op =>
      if t.value = "(" then do
        let (e, ts) ← disjunction fuel ts
        pure (e, ← need .op ")" ts)
      else if t.value = "-" then do
        let (text, ts) ← needKind .number ts
        pure (.literal (← numberValue true text), ts)
      else .error (.unexpected t)
    | .number => do pure (.literal (← numberValue false t.value), ts)
    | .string => .ok (.literal (.text t.value), ts)
    | .keyword =>
      match constant? t.value with
      | some v => .ok (.literal v, ts)
      | none => .error (.unexpected t)
    | .name => do
      let (names, ts) ← pathTail ts.length ts
      pure (.field (t.value :: names), ts)
    | .eof => .error (.unexpected t)

def list (fuel : Nat) (ts : List Token) : Except ParseError (List Expr × List Token) :=
  match fuel with
  | 0 => .error (.unexpected (peek ts))
  | fuel + 1 => do
    let ts ← need .op "[" ts
    if comes .op "]" ts then pure ([], advance ts)
    else
      let (e, ts) ← disjunction fuel ts
      let (es, ts) ← moreItems fuel ts
      pure (e :: es, ← need .op "]" ts)

/-- The items after each comma that comes next. -/
def moreItems (fuel : Nat) (ts : List Token) : Except ParseError (List Expr × List Token) :=
  match fuel with
  | 0 => .error (.unexpected (peek ts))
  | fuel + 1 =>
    if comes .op "," ts then do
      let (e, ts) ← disjunction fuel (advance ts)
      let (es, ts) ← moreItems fuel ts
      pure (e :: es, ts)
    else .ok ([], ts)

end

/-- Reads the condition that a list of tokens spells. Between two tokens that are taken, at most
seven rules are entered. -/
def Expr.ofTokens (ts : List Token) : Except ParseError Expr := do
  let (e, rest) ← disjunction (8 * ts.length + 8) ts
  if (peek rest).kind = .eof then pure e else throw (.trailing (peek rest))

/-- Reads a condition. -/
def Expr.read (text : List Char) : Except ParseError Expr := do
  match tokens text with
  | .ok ts => Expr.ofTokens ts
  | .error e => throw (.token e)

/-- Whether a condition holds for the members of a record. The record itself is also found under the
name `values`, unless it has a member of that name. A condition that cannot be read or evaluated
does not hold; only a whole number that is too long to be read is an error. -/
def holds (condition : Option String) (members : List (String × Value)) :
    Except ParseError Bool :=
  match condition with
  | none => .ok true
  | some text =>
    if (strip text.toList).isEmpty then .ok true
    else
      let context :=
        if (Value.find? members "values").isSome then members
        else members ++ [("values", .object members)]
      match Expr.read text.toList with
      | .error .numberTooLong => .error .numberTooLong
      | .error _ => .ok false
      | .ok e =>
        match eval (.object context) e with
        | .ok v => .ok v.truth
        | .error _ => .ok false

end Formwork.Visibility
