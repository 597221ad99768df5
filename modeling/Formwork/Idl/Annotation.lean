import Formwork.Pattern.Reader
import Formwork.Text.Naming

/-!
Annotations of declarations. A comment holds directives, such as `@label Invoice number*` or
`@required=false`; an option list holds entries, such as `(ui_pattern) = "^[A-Z]+$"`. Each source
yields what it sets, and later sources win over earlier ones: the comments above a declaration, the
comments beside it, its option list.
-/
namespace Formwork.Idl
open Formwork.Text Formwork.Pattern

/-- What one source says about a field; `none` where it says nothing. -/
structure FieldMeta where
  label : Option String := none
  required : Option Bool := none
  pattern : Option String := none
  listVisible : Option Bool := none
  uniqueKey : Option Bool := none
  widget : Option String := none
  deriving DecidableEq, Repr

/-- What one source says about a member of an enumeration. -/
structure MemberMeta where
  label : Option String := none
  value : Option String := none
  deriving DecidableEq, Repr

/-- The metadata of `earlier` with everything that `later` sets taken from `later`. -/
def FieldMeta.merge (earlier later : FieldMeta) : FieldMeta where
  label := later.label.or earlier.label
  required := later.required.or earlier.required
  pattern := later.pattern.or earlier.pattern
  listVisible := later.listVisible.or earlier.listVisible
  uniqueKey := later.uniqueKey.or earlier.uniqueKey
  widget := later.widget.or earlier.widget

/-- The metadata of `earlier` with everything that `later` sets taken from `later`. -/
def MemberMeta.merge (earlier later : MemberMeta) : MemberMeta where
  label := later.label.or earlier.label
  value := later.value.or earlier.value

/-- A text, or `none` for the empty one. -/
def nonEmpty (cs : List Char) : Option String :=
  if cs.isEmpty then none else some (String.ofList cs)

/-! ### Directives in comments -/

/-- The first result of `f` on the text and its ends, longest first. -/
def firstFrom {α : Type} (f : List Char → Option α) : List Char → Option α
  | [] => f []
  | c :: cs => (f (c :: cs)).orElse fun _ => firstFrom f cs

/-- The text after one of the words, written in any case and ended by no word character. -/
def keyword? (words : List String) (cs : List Char) : Option (List Char) :=
  words.findSome? fun w =>
    (dropFolded? w.toList cs).filter fun rest => !rest.head?.any isWord

/-- The text after a directive of one of the names. -/
def directive? (names : List String) : List Char → Option (List Char)
  | '@' :: cs => keyword? names cs
  | _ => none

/-- A directive begins behind white space. -/
def directiveAhead (cs : List Char) : Bool :=
  cs.head?.any isBlank &&
    match stripLeft cs with
    | '@' :: c :: _ => beginsName c
    | _ => false

/-- A directive's value may end before `cs`: at the end, at a final line feed, or where another
directive begins. -/
def valueEnds (cs : List Char) : Bool := cs == [] || cs == ['\n'] || directiveAhead cs

/-- The shortest non-empty stretch of one line after which a value may end. -/
def shortestValue? : List Char → Option (List Char)
  | [] => none
  | c :: cs =>
    if c = '\n' then none
    else if valueEnds cs then some [c]
    else (shortestValue? cs).map (c :: ·)

/-- The text without leading white space, and then with ever more of it. -/
def afterBlanks : List Char → List (List Char)
  | [] => [[]]
  | c :: cs => if isBlank c then afterBlanks cs ++ [c :: cs] else [c :: cs]

def isSeparator (c : Char) : Bool := c == ':' || c == '='

/-- The text without a leading separator, if it has one, and then the text. -/
def afterSeparator : List Char → List (List Char)
  | [] => [[]]
  | c :: cs => if isSeparator c then [cs, c :: cs] else [c :: cs]

/-- The places where the value after a directive's name may begin, in order of preference. -/
def valueStarts (cs : List Char) : List (List Char) :=
  ((afterBlanks cs).flatMap afterSeparator).flatMap afterBlanks

/-- The value of the first directive of one of the names that has a value. -/
def textDirective? (names : List String) (comment : List Char) : Option (List Char) :=
  (firstFrom (fun cs => do (valueStarts (← directive? names cs)).findSome? shortestValue?)
    comment).map strip

/-- The words that a switch may be set to. -/
def switchWords : List String := ["true", "false", "1", "0", "yes", "no"]

/-- The setting after a switch's name: on, unless a word other than `true`, `1` or `yes` follows. -/
def switchSetting (cs : List Char) : Bool :=
  let cs := stripLeft cs
  let cs := stripLeft (match cs with
    | c :: rest => if isSeparator c then rest else c :: rest
    | [] => [])
  match keyword? switchWords cs with
  | none => true
  | some rest =>
    let word := lower (cs.take (cs.length - rest.length))
    ["true", "1", "yes"].contains (String.ofList word)

/-- The setting of the first directive of one of the names. -/
def switchDirective? (names : List String) (comment : List Char) : Option Bool :=
  (firstFrom (directive? names) comment).map switchSetting

/-- The text before the asterisks at its end and the white space before them; `none` when there are
no asterisks. -/
def starless? (cs : List Char) : Option (List Char) :=
  match (stripRight cs).reverse with
  | '*' :: rest => some (stripRight (rest.dropWhile (· == '*')).reverse)
  | _ => none

/-- What a comment says about a field. Asterisks at the end of a label mean that a value is
required, unless a directive says otherwise. -/
def commentMeta (comment : List Char) : Except Fault FieldMeta := do
  let label := (textDirective? ["label"] comment).filter (!·.isEmpty)
  let starred := label.bind starless?
  let required := switchDirective? ["required", "require"] comment
  let pattern ←
    match textDirective? ["pattern", "regex"] comment with
    | some raw => normalize (unquote raw)
    | none => pure none
  pure {
    label := label.bind fun l => nonEmpty (unquote (strip (starred.getD l)))
    required := required.or (starred.map fun _ => true)
    pattern := pattern.map String.ofList
    listVisible := switchDirective? ["list_visible", "list", "table"] comment
    uniqueKey := switchDirective? ["unique_key", "unique", "uk"] comment }

/-- What a comment says about a member of an enumeration. -/
def commentMemberMeta (comment : List Char) : MemberMeta where
  label := (textDirective? ["label"] comment).bind fun l => nonEmpty (unquote l)
  value := (textDirective? ["value"] comment).bind fun v => nonEmpty (unquote v)

/-! ### Entries of option lists -/

/-- The text after the dotted names that lead to a key; `best` is the text after those passed. -/
def afterQualifiers (best : List Char) (inName : Bool) : List Char → List Char
  | [] => best
  | c :: cs =>
    if inName then
      if c = '.' then afterQualifiers cs false cs
      else if isWord c then afterQualifiers best true cs
      else best
    else if beginsName c then afterQualifiers best true cs
    else best

/-- The text without the character `c` at its front. -/
def dropOptional (c : Char) : List Char → List Char
  | [] => []
  | d :: cs => if d = c then cs else d :: cs

/-- The value after a key, in brackets or bare and with or without qualifiers, and an equals sign,
all at the front of the text. -/
def entryAt? {α : Type} (key : String) (value? : List Char → Option α) (cs : List Char) :
    Option α := do
  let named := dropOptional '(' cs
  let rest ← dropFolded? key.toList (afterQualifiers named false named)
  match stripLeft (dropOptional ')' rest) with
  | '=' :: rest => value? (stripLeft rest)
  | _ => none

/-- The first entry with the key and a readable value; `before` is the character before the text. -/
def entryFrom? {α : Type} (key : String) (value? : List Char → Option α) (before : Option Char) :
    List Char → Option α
  | [] => none
  | c :: cs =>
    let here :=
      if before.any fun b => isWord b || b == '.' then none else entryAt? key value? (c :: cs)
    here.orElse fun _ => entryFrom? key value? (some c) cs

/-- The content of a double-quoted text at the front, escapes kept, and what follows it. A backslash
protects any character but a line feed. -/
def quotedContent? : List Char → Option (List Char × List Char)
  | [] => none
  | '"' :: cs => some ([], cs)
  | '\\' :: c :: cs =>
    if c = '\n' then none
    else (quotedContent? cs).map fun (content, rest) => ('\\' :: c :: content, rest)
  | c :: cs =>
    if c = '\\' then none
    else (quotedContent? cs).map fun (content, rest) => (c :: content, rest)

/-- A double-quoted text at the front, escapes resolved, and what follows it. -/
def quotedText? : List Char → Option (List Char × List Char)
  | '"' :: cs => (quotedContent? cs).map fun (content, rest) => (unescapeQuoted content, rest)
  | _ => none

/-- The value of the first entry with the key and a double-quoted text. -/
def entryText? (key : String) (options : List Char) : Option (List Char) :=
  entryFrom? key (fun cs => (quotedText? cs).map (·.1)) none options

/-- A truth value at the front of the text, ended by no word character. -/
def truthAt? (cs : List Char) : Option Bool :=
  if (keyword? ["true"] cs).isSome then some true
  else if (keyword? ["false"] cs).isSome then some false
  else none

/-- The value of the first entry with the key and a truth value. -/
def entryTruth? (key : String) (options : List Char) : Option Bool :=
  entryFrom? key truthAt? none options

/-- What an option list says about a field. -/
def optionMeta (options : List Char) : Except Fault FieldMeta := do
  let pattern ←
    match (entryText? "ui_pattern" options).filter (!·.isEmpty) with
    | some raw => normalize raw
    | none => pure none
  pure {
    label := (entryText? "ui_label" options).bind nonEmpty
    required := entryTruth? "ui_required" options
    pattern := pattern.map String.ofList
    listVisible := entryTruth? "ui_list" options
    uniqueKey := entryTruth? "ui_unique" options
    widget := (entryText? "ui_widget" options).bind fun w => nonEmpty (lower (strip w)) }

/-- What an option list says about a member of an enumeration; its value may be empty. -/
def optionMemberMeta (options : List Char) : MemberMeta where
  label := (entryText? "ui_enum_label" options).bind nonEmpty
  value := (entryText? "ui_enum_value" options).map String.ofList

end Formwork.Idl
