import Formwork.Text.Blank

/-!
The lexical classes of form description text. A quoted literal runs to its closing quote or to the
end of its line; a comment runs to the end of its line or, between `/*` and `*/`, over lines. A
brace, a semicolon or a comment mark inside a literal has no effect on the structure of the text.

Every character is classified from the mode before it and from the one character after it.
-/
namespace Formwork.Idl
open Formwork.Text

/-- The lexical class of a character. -/
inductive Lexeme
  | code
  | string
  | lineComment
  | blockComment
  deriving DecidableEq, Repr

/-- Where the scan stands before a character. -/
inductive Mode
  /-- In code. -/
  | code
  /-- In a literal opened by `quote`. -/
  | string (quote : Char)
  /-- In a literal, before a character that a backslash protects. -/
  | escaped (quote : Char)
  /-- Before the second character of the mark that opens a line comment. -/
  | lineMark
  | lineComment
  /-- Before the second character of the mark that opens a block comment. -/
  | blockMark
  | blockComment
  /-- Before the second character of the mark that closes a block comment. -/
  | closeMark
  deriving DecidableEq, Repr

/-- The class of `c`, with `next` after it, and the mode that follows it. -/
def Mode.step (mode : Mode) (c : Char) (next : Option Char) : Lexeme × Mode :=
  match mode with
  | .code =>
    if c = '/' ∧ next = some '/' then (.lineComment, .lineMark)
    else if c = '/' ∧ next = some '*' then (.blockComment, .blockMark)
    else if c = '"' ∨ c = '\'' then (.string, .string c)
    else (.code, .code)
  | .string quote =>
    if c = '\n' then (.code, .code)
    else if c = '\\' ∧ next.any (· ≠ '\n') then (.string, .escaped quote)
    else if c = quote then (.string, .code)
    else (.string, .string quote)
  | .escaped quote => (.string, .string quote)
  | .lineMark => (.lineComment, .lineComment)
  | .lineComment => if c = '\n' then (.code, .code) else (.lineComment, .lineComment)
  | .blockMark => (.blockComment, .blockComment)
  | .blockComment =>
    if c = '*' ∧ next = some '/' then (.blockComment, .closeMark)
    else (.blockComment, .blockComment)
  | .closeMark => (.blockComment, .code)

/-- A character with its class. -/
abbrev Marked := Char × Lexeme

/-- The characters of a text with their classes, scanned from `mode` on. -/
def markFrom (mode : Mode) : List Char → List Marked
  | [] => []
  | c :: cs => (c, (mode.step c cs.head?).1) :: markFrom (mode.step c cs.head?).2 cs

/-- The mode after a text that is scanned from `mode` on. -/
def modeAfter (mode : Mode) : List Char → Mode
  | [] => mode
  | c :: cs => modeAfter (mode.step c cs.head?).2 cs

/-- The characters of a text with their classes. -/
def mark (text : List Char) : List Marked := markFrom .code text

/-- The class of every character of a text. -/
def lexemes (text : List Char) : List Lexeme := (mark text).map (·.2)

theorem markFrom_map_fst (mode : Mode) (cs : List Char) : (markFrom mode cs).map (·.1) = cs := by
  induction cs generalizing mode with
  | nil => rfl
  | cons c cs ih => simp [markFrom, ih]

theorem lexemes_length (text : List Char) : (lexemes text).length = text.length := by
  have h := congrArg List.length (markFrom_map_fst .code text)
  simpa [lexemes, mark] using h

/-- A line feed after a character reads like the end of the text. -/
theorem Mode.step_lineFeed (mode : Mode) (c : Char) : mode.step c (some '\n') = mode.step c none := by
  cases mode <;> simp [step]

theorem Mode.step_head?_append (mode : Mode) (c : Char) (u v : List Char) :
    mode.step c (u ++ '\n' :: v).head? = mode.step c u.head? := by
  cases u with
  | nil => exact mode.step_lineFeed c
  | cons d u => rfl

/-- The text after a line feed has no effect on the classes before it. -/
theorem markFrom_append_lineFeed (mode : Mode) (u v : List Char) :
    markFrom mode (u ++ '\n' :: v) = markFrom mode u ++ markFrom (modeAfter mode u) ('\n' :: v) := by
  induction u generalizing mode with
  | nil => rfl
  | cons c u ih => simp only [List.cons_append, markFrom, modeAfter, Mode.step_head?_append, ih]

/-- The text without block comments; the line feeds in them stay, so that lines keep their numbers.
A comment that is never closed takes the rest of the text. -/
def stripBlockComments (text : List Char) : List Char :=
  ((mark text).filter fun (c, l) => l != .blockComment || c == '\n').map (·.1)

/-- The distance to the brace in code that brings `depth` open braces back to none. -/
def matchingBraceFrom (depth : Int) : List Marked → Option Nat
  | [] => none
  | (c, l) :: cs =>
    if l = .code ∧ c = '{' then (matchingBraceFrom (depth + 1) cs).map (· + 1)
    else if l = .code ∧ c = '}' then
      if depth = 1 then some 0 else (matchingBraceFrom (depth - 1) cs).map (· + 1)
    else (matchingBraceFrom depth cs).map (· + 1)

/-- The position of the brace that closes the one at `start`. -/
def matchingBrace? (text : List Char) (start : Nat) : Option Nat :=
  (matchingBraceFrom 0 ((mark text).drop start)).map (· + start)

/-- The marked text outside braces, `depth` braces being open before it; each outermost pair leaves
a semicolon behind. -/
def dropBlocks (depth : Nat) : List Marked → List Char
  | [] => []
  | (c, l) :: cs =>
    if l = .code ∧ c = '{' then dropBlocks (depth + 1) cs
    else if l = .code ∧ c = '}' then
      match depth with
      | 0 => dropBlocks 0 cs
      | 1 => ';' :: dropBlocks 0 cs
      | d + 2 => dropBlocks (d + 1) cs
    else if depth = 0 then c :: dropBlocks 0 cs
    else dropBlocks depth cs

/-- The body of a block without the blocks nested in it. The semicolon left in the place of each
keeps the words before it from joining the declaration after it. -/
def removeInnerBlocks (body : List Char) : List Char := dropBlocks 0 (mark body)

/-- The marked text before the first line comment, and the comment with its mark. -/
def splitAtLineComment : List Marked → List Char × List Char
  | [] => ([], [])
  | (c, l) :: cs =>
    if l = .lineComment then ([], c :: cs.map (·.1))
    else (c :: (splitAtLineComment cs).1, (splitAtLineComment cs).2)

/-- The code of a line and the text of the line comment after it, both stripped. -/
def splitLineComment (line : List Char) : List Char × List Char :=
  let (code, comment) := splitAtLineComment (mark line)
  (strip code, strip (comment.drop 2))

/-- The stretches of marked text that end in a semicolon in code, and the stretch after the last of
them; `taken` is the stretch at hand, latest character first. -/
def cutStatements (taken : List Char) : List Marked → List (List Char) × List Char
  | [] => ([], taken.reverse)
  | (c, l) :: cs =>
    if l = .code ∧ c = ';' then
      let (more, rest) := cutStatements [] cs
      ((c :: taken).reverse :: more, rest)
    else cutStatements (c :: taken) cs

/-- The complete statements of some code, empty ones left out, and the code after the last. -/
def splitStatements (code : List Char) : List (List Char) × List Char :=
  let (complete, rest) := cutStatements [] (mark code)
  ((complete.map strip).filter (· != [';']), strip rest)

/-- The text after the first `c`. -/
def afterFirst? (c : Char) : List Char → Option (List Char)
  | [] => none
  | d :: cs => if d = c then some cs else afterFirst? c cs

/-- The text before the last `c`. -/
def beforeLast? (c : Char) : List Char → Option (List Char)
  | [] => none
  | d :: cs =>
    match beforeLast? c cs with
    | some kept => some (d :: kept)
    | none => if d = c then some [] else none

/-- The text between the first `[` and the last `]` before the last semicolon; empty when the
statement has no option list. -/
def optionList (statement : List Char) : List Char :=
  let declared := (beforeLast? ';' statement).getD statement
  ((afterFirst? '[' declared).bind (beforeLast? ']')).getD []

end Formwork.Idl
