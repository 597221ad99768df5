import Formwork.Pattern.Basic
import Formwork.Pattern.CharName
import Formwork.Text.Identifier

/-!
Reading regular expressions from their text.

A text that is no expression is `malformed`. Three faults stand apart, since they concern not the
form of the text but its numbers and flags: a count that no loop can hold, a count with too many
digits to be read, and flags that exclude each other.
-/
namespace Formwork.Pattern
open Formwork.Text

/-- Why a text is no usable expression. -/
inductive Fault
  | malformed
  /-- A loop count is beyond all bounds. -/
  | countTooLarge
  /-- A loop count has too many digits to be read. -/
  | countTooLong (digits : Nat)
  /-- Both the letters of ASCII alone and those of all scripts were asked for. -/
  | flagsConflict
  deriving DecidableEq, Repr

def Fault.message : Fault → String
  | .malformed => "malformed pattern"
  | .countTooLarge => "the repetition number is too large"
  | .countTooLong digits =>
    s!"Exceeds the limit (4300 digits) for integer string conversion: value has {digits} digits; " ++
      "use sys.set_int_max_str_digits() to increase the limit"
  | .flagsConflict => "ASCII and UNICODE flags are incompatible"

/-- A character of an expression, or a character that a backslash precedes. -/
inductive Token
  | plain (c : Char)
  | escaped (c : Char)
  /-- A backslash at the end of the text. -/
  | broken
  deriving DecidableEq, Repr

def tokens : List Char → List Token
  | [] => []
  | ['\\'] => [.broken]
  | '\\' :: c :: cs => .escaped c :: tokens cs
  | c :: cs => .plain c :: tokens cs

/-- Flags that hold for a stretch of an expression. -/
structure Flags where
  ignoreCase : Bool
  multiline : Bool
  dotAll : Bool
  ascii : Bool
  deriving DecidableEq, Repr

def Flags.fold (f : Flags) : Fold :=
  if !f.ignoreCase then .exact else if f.ascii then .ascii else .unicode

/-- Flags by their letters. -/
structure FlagSet where
  letters : List Char
  deriving DecidableEq, Repr

namespace FlagSet

def has (s : FlagSet) (c : Char) : Bool := s.letters.contains c

/-- The flags in force where `on` are turned on and `off` are turned off. -/
def apply (on off : FlagSet) (f : Flags) : Flags where
  ignoreCase := (f.ignoreCase || on.has 'i') && !off.has 'i'
  multiline := (f.multiline || on.has 'm') && !off.has 'm'
  dotAll := (f.dotAll || on.has 's') && !off.has 's'
  ascii := (f.ascii && !on.has 'u') || on.has 'a'

end FlagSet

/-- What has been read so far. -/
structure Progress where
  rest : List Token
  /-- Flags for the whole expression. -/
  globals : FlagSet
  /-- The widths of the groups, by number from 1; `none` for a group that is still open. -/
  groups : List (Option Width)
  names : List (List Char × Nat)
  /-- Inside a look-behind, the number of the first group that is not before it. -/
  behindLimit : Option Nat
  /-- Groups that conditions refer to. -/
  conditions : List Nat
  /-- A look-behind without a fixed width has been read. -/
  looseBehind : Bool
  hasLoops : Bool

abbrev Reading := StateT Progress (Except Fault)

namespace Reading

def malformed {α : Type} : Reading α := throw .malformed

/-- Goes on to `rest`; a lone backslash is noticed as soon as it comes next. -/
def moveTo (rest : List Token) : Reading Unit :=
  if rest.head? = some .broken then malformed
  else modify fun p => { p with rest }

/-- The next token, which is passed. -/
def next? : Reading (Option Token) := do
  match (← get).rest with
  | [] => pure none
  | t :: ts => do
    moveTo ts
    pure (some t)

/-- Passes `c` if it comes next. -/
def accept (c : Char) : Reading Bool := do
  match (← get).rest with
  | t :: ts =>
    if t = .plain c then do
      moveTo ts
      pure true
    else pure false
  | [] => pure false

def require (c : Char) : Reading Unit := do
  unless ← accept c do malformed

/-- At most `limit` plain characters of a class that come next. -/
def spanOf (holds : Char → Bool) : Nat → List Token → List Char × List Token
  | 0, ts => ([], ts)
  | limit + 1, .plain c :: ts =>
    if holds c then
      let (cs, rest) := spanOf holds limit ts
      (c :: cs, rest)
    else ([], .plain c :: ts)
  | _, ts => ([], ts)

/-- Passes at most `limit` characters of a class. -/
def takeOf (holds : Char → Bool) (limit : Nat) : Reading (List Char) := do
  let (cs, rest) := spanOf holds limit (← get).rest
  moveTo rest
  pure cs

/-- The characters up to `stop` and the tokens after it. -/
def spanTo (stop : Char) : List Token → Option (List Char × List Token)
  | [] => none
  | .broken :: _ => none
  | .plain c :: ts =>
    if c = stop then some ([], ts) else (spanTo stop ts).map fun (cs, rest) => (c :: cs, rest)
  | .escaped c :: ts => (spanTo stop ts).map fun (cs, rest) => ('\\' :: c :: cs, rest)

/-- A name that `stop` ends. -/
def nameUpTo (stop : Char) : Reading (List Char) := do
  match spanTo stop (← get).rest with
  | some (c :: cs, rest) => do
    moveTo rest
    pure (c :: cs)
  | _ => malformed

def isOctal (c : Char) : Bool := '0' ≤ c && c ≤ '7'

def isHex (c : Char) : Bool := c.isDigit || ('a' ≤ c && c ≤ 'f') || ('A' ≤ c && c ≤ 'F')

def hexValue (c : Char) : Nat :=
  if c.isDigit then c.toNat - 48 else if 'a' ≤ c then c.toNat - 87 else c.toNat - 55

def numeral (base : Nat) (cs : List Char) : Nat := cs.foldl (fun n c => n * base + hexValue c) 0

/-- A code point of exactly `count` hexadecimal digits. -/
def hexCode (count : Nat) : Reading Nat := do
  let cs ← takeOf isHex count
  let n := numeral 16 cs
  if cs.length = count ∧ n < 0x110000 then pure n else malformed

/-- The code point of a named character. -/
def namedCode : Reading Nat := do
  require '\x7b'
  let name ← nameUpTo '\x7d'
  match namedChar? (String.ofList name) with
  | some n => pure n
  | none => malformed

/-- The character that a letter after a backslash stands for. -/
def controlCode? : Char → Option Nat
  | 'a' => some 7
  | 'b' => some 8
  | 'f' => some 12
  | 'n' => some 10
  | 'r' => some 13
  | 't' => some 9
  | 'v' => some 11
  | '\\' => some 92
  | _ => none

/-- The class that a letter after a backslash stands for. -/
def category? : Char → Option SetItem
  | 'd' => some (.category .digit false)
  | 'D' => some (.category .digit true)
  | 's' => some (.category .space false)
  | 'S' => some (.category .space true)
  | 'w' => some (.category .word false)
  | 'W' => some (.category .word true)
  | _ => none

/-- The code of an escape that is neither a class nor a number. -/
def plainEscape (c : Char) : Reading Nat :=
  match c with
  | 'x' => hexCode 2
  | 'u' => hexCode 4
  | 'U' => hexCode 8
  | 'N' => namedCode
  | _ =>
    match controlCode? c with
    | some n => pure n
    | none => if c.isAlphanum then malformed else pure c.toNat

/-- An octal code, which may not pass one byte. -/
def octalCode (cs : List Char) : Reading Nat :=
  if numeral 8 cs ≤ 255 then pure (numeral 8 cs) else malformed

/-- An escape inside a character set. -/
def setEscape (c : Char) : Reading SetItem := do
  match category? c with
  | some item => pure item
  | none =>
    if isOctal c then do
      let cs ← takeOf isOctal 2
      pure (.single (← octalCode (c :: cs)))
    else pure (.single (← plainEscape c))

def setMember : Token → Reading SetItem
  | .plain c => pure (.single c.toNat)
  | .escaped c => setEscape c
  | .broken => malformed

/-- The items of a character set up to its closing bracket; `items` holds those read, latest
first. -/
def setItems : Nat → List SetItem → Reading (List SetItem)
  | 0, _ => malformed
  | fuel + 1, items => do
    let some t ← next? | malformed
    if t = .plain ']' ∧ items ≠ [] then pure items.reverse
    else
      let low ← setMember t
      if ← accept '-' then
        let some u ← next? | malformed
        if u = .plain ']' then pure (.single 45 :: low :: items).reverse
        else
          let high ← setMember u
          match low, high with
          | .single lo, .single hi =>
            if lo ≤ hi then setItems fuel (.range lo hi :: items) else malformed
          | _, _ => malformed
      else setItems fuel (low :: items)

/-- Whether the number of a group may be referred to here. -/
def checkBehind (group : Nat) : Reading Unit := do
  let p ← get
  match p.behindLimit with
  | none => pure ()
  | some limit =>
    if (p.groups[group - 1]?).join.isSome ∧ group < limit then pure () else malformed

/-- A reference to a group that is closed. -/
def reference (flags : Flags) (group : Nat) : Reading Node := do
  match ((← get).groups[group - 1]?).join with
  | some w => do
    checkBehind group
    pure (.backref group flags.fold w)
  | none => malformed

/-- A character outside a set. -/
def literal (flags : Flags) (n : Nat) : Node := .char ⟨[.single n], false, flags.fold, flags.ascii⟩

/-- An escape outside a set. -/
def escape (flags : Flags) (c : Char) : Reading Node := do
  match category? c with
  | some item => pure (.char ⟨[item], false, flags.fold, flags.ascii⟩)
  | none =>
    match c with
    | 'A' => pure (.anchor .textStart)
    | 'Z' => pure (.anchor .textEnd)
    | 'b' => pure (.anchor (.wordEdge flags.ascii))
    | 'B' => pure (.anchor (.noWordEdge flags.ascii))
    | '0' => do
      let cs ← takeOf isOctal 2
      pure (literal flags (numeral 8 cs))
    | _ =>
      if c.isDigit then do
        match ← takeOf Char.isDigit 1 with
        | [d] =>
          match (← get).rest with
          | .plain e :: ts =>
            if isOctal c && isOctal d && isOctal e then do
              moveTo ts
              pure (literal flags (← octalCode [c, d, e]))
            else reference flags (numeral 10 [c, d])
          | _ => reference flags (numeral 10 [c, d])
        | _ => reference flags (numeral 10 [c])
      else pure (literal flags (← plainEscape c))

/-- The count that a loop gives in digits; a numeral may have 4300 digits, and no loop runs
4294967295 times. -/
def count (cs : List Char) : Reading Nat :=
  if 4300 < cs.length then throw (.countTooLong cs.length)
  else if 4294967295 ≤ numeral 10 cs then throw .countTooLarge
  else pure (numeral 10 cs)

/-- The bounds of a loop between braces, after the opening brace; `none` when the brace stands for
itself. -/
def bounds? : Reading (Option (Nat × Option Nat)) := do
  let start := (← get).rest
  let size := start.length
  if start.head? = some (.plain '\x7d') then pure none
  else
    let lo ← takeOf Char.isDigit size
    let hi ← if ← accept ',' then takeOf Char.isDigit size else pure lo
    if ← accept '\x7d' then
      let min ← if lo.isEmpty then pure 0 else count lo
      if hi.isEmpty then pure (some (min, none))
      else
        let max ← count hi
        if max < min then malformed else pure (some (min, some max))
    else
      modify fun p => { p with rest := start }
      pure none

def Node.isAnchor : Node → Bool
  | .anchor _ => true
  | _ => false

def Node.isLoop : Node → Bool
  | .loop _ _ _ _ => true
  | _ => false

/-- Turns the latest node into a loop. -/
def loopOver (min : Nat) (max : Option Nat) (items : List Node) : Reading (List Node) := do
  match items with
  | [] => malformed
  | item :: before =>
    if Node.isAnchor item || Node.isLoop item then malformed
    else
      let lazy ← accept '?'
      let possessive ← if lazy then pure false else accept '+'
      let mode : LoopMode :=
        if lazy then .lazy else if possessive then .possessive else .greedy
      modify fun p => { p with hasLoops := true }
      pure (.loop mode min max item :: before)

/-- The letters of flags up to a character that is none. -/
def flagLetters : Nat → List Char → Reading (List Char × Char)
  | 0, _ => malformed
  | fuel + 1, letters => do
    match ← next? with
    | some (.plain c) =>
      if "imsxatuL".toList.contains c then flagLetters fuel (c :: letters)
      else pure (letters, c)
    | _ => malformed

/-- Flags that are turned on and off for a group, or `none` when they hold for the whole
expression. -/
def inlineFlags (first : Char) : Reading (Option (FlagSet × FlagSet)) := do
  let size := (← get).rest.length + 1
  let (on, stop) ← if first = '-' then pure ([], '-') else flagLetters size [first]
  if on.contains 'L' || (on.contains 'a' && on.contains 'u') then malformed
  else if stop = ')' then
    modify fun p => { p with globals := ⟨on ++ p.globals.letters⟩ }
    pure none
  else if on.contains 't' then malformed
  else if stop = ':' then pure (some (⟨on⟩, ⟨[]⟩))
  else if stop = '-' then
    let (off, stop) ← flagLetters size []
    if off = [] || stop ≠ ':' || off.any ("atuL".toList.contains ·) || off.any on.contains then
      malformed
    else pure (some (⟨on⟩, ⟨off⟩))
  else malformed

/-- The number that a condition gives, with blanks around it, a sign, or single underscores between
its digits. -/
def conditionNumber? (name : List Char) : Option Nat :=
  let cs := strip name
  let cs := if cs.head? = some '+' then cs.drop 1 else cs
  let ds := cs.map digitValue?
  if ds.isEmpty then none
  else if cs.head? = some '_' || cs.getLast? = some '_' then none
  else if (cs.zip (cs.drop 1)).any (· = ('_', '_')) then none
  else if cs.any fun c => c != '_' && (digitValue? c).isNone then none
  else if 4300 < (cs.filter (· != '_')).length then none
  else some (ds.foldl (fun n d => match d with | some d => n * 10 + d | none => n) 0)

/-- The group that a condition refers to. -/
def conditionGroup : Reading Nat := do
  let name ← nameUpTo ')'
  let p ← get
  let group ←
    if isIdentifier name then
      match p.names.lookup name with
      | some n => pure n
      | none => malformed
    else match conditionNumber? name with
      | some (n + 1) => do
        set { p with conditions := (n + 1) :: p.conditions }
        pure (n + 1)
      | _ => malformed
  checkBehind group
  pure group

/-- Passes a comment up to its closing parenthesis. -/
def skipComment : Nat → Reading Unit
  | 0 => malformed
  | fuel + 1 => do
    match ← next? with
    | none => malformed
    | some (.plain ')') => pure ()
    | some _ => skipComment fuel

/-- Passes the rest of a line in a verbose expression. -/
def skipLine : Nat → Reading Unit
  | 0 => pure ()
  | fuel + 1 => do
    match ← next? with
    | none | some (.plain '\n') => pure ()
    | some _ => skipLine fuel

/-- A set, after its opening bracket. -/
def charSet (flags : Flags) : Reading Node := do
  let negated ← accept '^'
  let items ← setItems ((← get).rest.length + 1) []
  pure (.char ⟨items, negated, flags.fold, flags.ascii⟩)

/-- Opens a numbered group. -/
def openGroup (name : Option (List Char)) : Reading Nat := do
  let p ← get
  let group := p.groups.length + 1
  let taken := name.any fun n => (p.names.lookup n).isSome
  if taken then malformed
  let named := name.toList.map (·, group)
  set { p with groups := p.groups ++ [none], names := named ++ p.names }
  pure group

def closeGroup (group : Nat) (width : Width) : Reading Unit :=
  modify fun p => { p with groups := p.groups.set (group - 1) (some width) }

/-- A look-behind over `body`, which needs a fixed width. -/
def lookBehind (negated : Bool) (body : Node) : Reading Node := do
  let w := body.width
  unless w.most = some w.least && w.least ≤ 4294967295 do
    modify fun p => { p with looseBehind := true }
  pure (.behind negated w.least body)

/-- The kinds of group that hold alternatives. -/
inductive GroupKind
  | capture (name : Option (List Char))
  | scope (on off : FlagSet)
  | atomic
  | ahead (negated : Bool)
  | behind (negated : Bool)

/-- What follows an opening parenthesis. -/
inductive Opening
  | group (kind : GroupKind)
  | node (node : Node)
  | condition (group : Nat)
  | comment
  | globals

/-- Reads what follows an opening parenthesis, up to the alternatives of the group. -/
def opening (flags : Flags) : Reading Opening := do
  if !(← accept '?') then pure (.group (.capture none))
  else
    match ← next? with
    | some (.plain 'P') =>
      if ← accept '<' then
        let name ← nameUpTo '>'
        if isIdentifier name then pure (.group (.capture (some name))) else malformed
      else if ← accept '=' then
        let name ← nameUpTo ')'
        match (← get).names.lookup name with
        | some group => pure (.node (← reference flags group))
        | none => malformed
      else malformed
    | some (.plain ':') => pure (.group (.scope ⟨[]⟩ ⟨[]⟩))
    | some (.plain '>') => pure (.group .atomic)
    | some (.plain '=') => pure (.group (.ahead false))
    | some (.plain '!') => pure (.group (.ahead true))
    | some (.plain '<') =>
      match ← next? with
      | some (.plain '=') => pure (.group (.behind false))
      | some (.plain '!') => pure (.group (.behind true))
      | _ => malformed
    | some (.plain '#') => do
      skipComment ((← get).rest.length + 1)
      pure .comment
    | some (.plain '(') => do pure (.condition (← conditionGroup))
    | some (.plain c) =>
      if c = '-' || "imsxatuL".toList.contains c then
        match ← inlineFlags c with
        | none => pure .globals
        | some (on, off) => pure (.group (.scope on off))
      else malformed
    | _ => malformed

def isVerboseBlank (c : Char) : Bool := isAsciiBlank c

/-- Flags for the whole expression. -/
def globalFlags (p : Progress) : Flags :=
  FlagSet.apply p.globals ⟨[]⟩ ⟨false, false, false, false⟩

mutual

/-- Alternatives between bars; `top` outside every group. -/
def alternatives (fuel : Nat) (flags : Flags) (verbose top : Bool) : Reading Node :=
  match fuel with
  | 0 => malformed
  | fuel + 1 => do
    let first ← sequence fuel flags verbose top []
    moreAlternatives fuel flags verbose top first

/-- The alternatives after `left`. -/
def moreAlternatives (fuel : Nat) (flags : Flags) (verbose top : Bool) (left : Node) :
    Reading Node :=
  match fuel with
  | 0 => malformed
  | fuel + 1 => do
    if ← accept '|' then
      let p ← get
      let flags := if top then globalFlags p else flags
      let verbose := if top then p.globals.has 'x' else verbose
      let right ← sequence fuel flags verbose false []
      moreAlternatives fuel flags verbose top (.alt left right)
    else pure left

/-- Nodes in a row; `items` holds those read, latest first. Flags for the whole expression may be
given where `first` holds and nothing has been read. -/
def sequence (fuel : Nat) (flags : Flags) (verbose first : Bool) (items : List Node) :
    Reading Node :=
  match fuel with
  | 0 => malformed
  | fuel + 1 => do
    let more := sequence fuel flags verbose first
    match (← get).rest with
    | [] | .plain '|' :: _ | .plain ')' :: _ =>
      pure (items.foldl (fun node item => .seq item node) .empty)
    | .broken :: _ => malformed
    | .escaped c :: ts => do
      moveTo ts
      more ((← escape flags c) :: items)
    | .plain c :: ts => do
      moveTo ts
      if verbose && isVerboseBlank c then more items
      else if verbose && c = '#' then
        skipLine (ts.length + 1)
        more items
      else match c with
        | '[' => more ((← charSet flags) :: items)
        | '.' => more (.dot flags.dotAll :: items)
        | '^' => more (.anchor (if flags.multiline then .lineStart else .textStart) :: items)
        | '$' => more (.anchor (if flags.multiline then .lineEnd else .closing) :: items)
        | '?' => more (← loopOver 0 (some 1) items)
        | '*' => more (← loopOver 0 none items)
        | '+' => more (← loopOver 1 none items)
        | '\x7b' =>
          match ← bounds? with
          | some (min, max) => more (← loopOver min max items)
          | none => more (literal flags c.toNat :: items)
        | '(' =>
          match ← opening flags with
          | .comment => more items
          | .node node => more (node :: items)
          | .globals =>
            if first && items.isEmpty then
              let p ← get
              sequence fuel (globalFlags p) (p.globals.has 'x') first items
            else malformed
          | .condition group =>
            let yes ← sequence fuel flags verbose false []
            let no ← if ← accept '|' then sequence fuel flags verbose false [] else pure .empty
            require ')'
            more (.branch group yes no :: items)
          | .group kind => more ((← groupBody fuel flags verbose kind) :: items)
        | _ => more (literal flags c.toNat :: items)

/-- The alternatives of a group and the parenthesis that closes it. -/
def groupBody (fuel : Nat) (flags : Flags) (verbose : Bool) (kind : GroupKind) : Reading Node :=
  match fuel with
  | 0 => malformed
  | fuel + 1 => do
    match kind with
    | .capture name =>
      let group ← openGroup name
      let body ← alternatives fuel flags verbose false
      require ')'
      closeGroup group body.width
      pure (.capture group body)
    | .scope on off =>
      let verbose := (verbose || on.has 'x') && !off.has 'x'
      let body ← alternatives fuel (FlagSet.apply on off flags) verbose false
      require ')'
      pure (.scope body)
    | .atomic =>
      let body ← alternatives fuel flags verbose false
      require ')'
      pure (.atomic body)
    | .ahead negated =>
      let body ← alternatives fuel flags verbose false
      require ')'
      pure (.ahead negated body)
    | .behind negated =>
      let outer := (← get).behindLimit
      modify fun p => { p with behindLimit := some (outer.getD (p.groups.length + 1)) }
      let body ← alternatives fuel flags verbose false
      modify fun p => { p with behindLimit := outer }
      require ')'
      lookBehind negated body

end

end Reading

/-- Reads an expression. -/
def read (text : List Char) : Except Fault Node := do
  let start : Progress := ⟨tokens text, ⟨[]⟩, [], [], none, [], false, false⟩
  if start.rest.head? = some .broken then throw .malformed
  let fuel := 3 * text.length + 8
  let (node, p) ← (Reading.alternatives fuel ⟨false, false, false, false⟩ false true).run start
  if p.globals.has 'a' && p.globals.has 'u' then throw .flagsConflict
  if !p.rest.isEmpty || p.looseBehind || (p.globals.has 't' && p.hasLoops) then throw .malformed
  if p.conditions.any (p.groups.length < ·) then throw .malformed
  pure node

/-- The text of an annotated expression as it is to be used, with doubled backslashes made single;
`none` when it is malformed. -/
def normalize (raw : List Char) : Except Fault (Option (List Char)) :=
  let text := halveBackslashes raw
  match read text with
  | .ok _ => .ok (some text)
  | .error .malformed => .ok none
  | .error fault => .error fault

end Formwork.Pattern
