import Formwork.Text.Blank
import Formwork.Text.Quoted

/-!
Tokens of visibility conditions. Operators and words that other languages write differently are
folded onto one spelling.
-/
namespace Formwork.Visibility
open Formwork.Text

inductive TokenKind
  | number
  | string
  | name
  | keyword
  | op
  | eof
  deriving DecidableEq, Repr

def TokenKind.text : TokenKind → String
  | .number => "number"
  | .string => "string"
  | .name => "name"
  | .keyword => "keyword"
  | .op => "op"
  | .eof => "eof"

/-- A token with its value and the position where it begins. -/
structure Token where
  kind : TokenKind
  value : String
  position : Nat
  deriving DecidableEq, Repr

/-- Why a text cannot be cut into tokens. -/
inductive TokenFault
  | unterminated
  | unexpected (c : Char)
  deriving DecidableEq, Repr

/-- A fault and its position. -/
structure TokenError where
  fault : TokenFault
  position : Nat
  deriving DecidableEq, Repr

def TokenError.message (e : TokenError) : String :=
  match e.fault with
  | .unterminated => "Unterminated string literal"
  | .unexpected c => "Unexpected character: " ++ String.ofList (quoted [c])

def keywords : List String := ["true", "false", "null", "and", "or", "not", "in", "is"]

/-- Other spellings, with those that they are folded onto. -/
def aliases : List (String × String) :=
  [("===", "=="), ("!==", "!="), ("&&", "and"), ("||", "or"), ("!", "not"), ("undefined", "null")]

/-- Operators; one that begins another stands after it. -/
def operators : List String :=
  ["===", "!==", "==", "!=", "<=", ">=", "&&", "||", "!", "<", ">", "(", ")", "[", "]", ",", ".",
   "-"]

/-- What stands at the front of a text. -/
inductive Lexeme
  | space
  | token (kind : TokenKind) (value : List Char)

/-- A word or an operator: its one spelling, as a keyword where it is one. -/
def wordLexeme (fallback : TokenKind) (cs : List Char) : Lexeme :=
  let s := String.ofList cs
  let word := (aliases.lookup s).getD s
  .token (if keywords.contains word then .keyword else fallback) word.toList

/-- The rest of a literal that `quote` opened: its value, and its length with the closing quote. -/
def literalTail? (quote : Char) : List Char → Option (List Char × Nat)
  | [] => none
  | ['\\'] => none
  | '\\' :: c :: cs => (literalTail? quote cs).map fun (value, n) => (c :: value, n + 2)
  | c :: cs =>
    if c = quote then some ([], 1)
    else (literalTail? quote cs).map fun (value, n) => (c :: value, n + 1)

def isNameChar (c : Char) : Bool := c.isAlphanum || c == '_' || c == '$'

/-- A number: digits, and a point with digits after it. -/
def numberOf (cs : List Char) : List Char :=
  let whole := cs.takeWhile Char.isDigit
  match cs.dropWhile Char.isDigit with
  | '.' :: c :: rest =>
    if c.isDigit then whole ++ '.' :: (c :: rest).takeWhile Char.isDigit else whole
  | _ => whole

/-- The lexeme at the front of a text, and its length. -/
def lexeme? : List Char → Option (Lexeme × Nat)
  | [] => none
  | c :: cs =>
    if isAsciiBlank c then some (.space, 1 + (cs.takeWhile isAsciiBlank).length)
    else if c.isDigit then
      let number := numberOf (c :: cs)
      some (.token .number number, number.length)
    else if c = '"' ∨ c = '\'' then
      (literalTail? c cs).map fun (value, n) => (.token .string value, n + 1)
    else if isNameChar c then
      let name := c :: cs.takeWhile isNameChar
      some (wordLexeme .name name, name.length)
    else
      (operators.find? fun o => o.toList.isPrefixOf (c :: cs)).map fun o =>
        (wordLexeme .op o.toList, o.length)

/-- The tokens of a text that stands at `position`; the first `skip` characters belong to a lexeme
that was read already. -/
def tokensFrom (position skip : Nat) : List Char → Except TokenError (List Token)
  | [] => .ok [⟨.eof, "", position⟩]
  | c :: cs =>
    match skip with
    | s + 1 => tokensFrom (position + 1) s cs
    | 0 =>
      match lexeme? (c :: cs) with
      | none =>
        .error ⟨if c = '"' ∨ c = '\'' then .unterminated else .unexpected c, position⟩
      | some (.space, n) => tokensFrom (position + 1) (n - 1) cs
      | some (.token kind value, n) =>
        (tokensFrom (position + 1) (n - 1) cs).map
          (⟨kind, String.ofList value, position⟩ :: ·)

/-- The tokens of a condition; the last one stands for its end. -/
def tokens (text : List Char) : Except TokenError (List Token) := tokensFrom 0 0 text

end Formwork.Visibility
