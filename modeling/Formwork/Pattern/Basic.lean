import Formwork.Text.Blank
import Formwork.Text.Digit
import Formwork.Text.Fold
import Formwork.Text.Word

/-!
Regular expressions as syntax trees. Flags have been resolved: each node carries what it needs to
know about case and about the scripts that its classes range over.
-/
namespace Formwork.Pattern
open Formwork.Text

/-- The named classes of characters. -/
inductive Category
  | digit
  | space
  | word
  deriving DecidableEq, Repr

/-- Membership in a named class, of ASCII alone or of any script. -/
def Category.holds (ascii : Bool) (c : Char) : Category → Bool
  | .digit => if ascii then c.isDigit else isDigit c
  | .space => if ascii then isAsciiBlank c else isBlank c
  | .word => if ascii then isAsciiWord c else isWord c

/-- A part of a character set. -/
inductive SetItem
  | single (code : Nat)
  | range (lo hi : Nat)
  | category (kind : Category) (negated : Bool)
  deriving DecidableEq, Repr

/-- A set of characters. -/
structure CharSet where
  items : List SetItem
  negated : Bool
  fold : Fold
  ascii : Bool
  deriving DecidableEq, Repr

def CharSet.holds (s : CharSet) (c : Char) : Bool :=
  (s.items.any fun
    | .single n => s.fold.same n c.toNat
    | .range lo hi => s.fold.within lo hi c.toNat
    | .category kind negated => kind.holds s.ascii c != negated) != s.negated

/-- A condition on a position. -/
inductive Anchor
  | textStart
  | textEnd
  /-- The end, or the line feed at the end. -/
  | closing
  | lineStart
  | lineEnd
  | wordEdge (ascii : Bool)
  | noWordEdge (ascii : Bool)
  deriving DecidableEq, Repr

/-- What a loop does with its choices. -/
inductive LoopMode
  /-- As many rounds as possible first. -/
  | greedy
  /-- As few rounds as possible first. -/
  | lazy
  /-- As many rounds as possible, and no fewer later. -/
  | possessive
  deriving DecidableEq, Repr

/-- The least and the greatest length of a match; `none` is without bound. -/
structure Width where
  least : Nat
  most : Option Nat
  deriving DecidableEq, Repr

inductive Node
  | empty
  | char (set : CharSet)
  | dot (lineFeeds : Bool)
  | anchor (condition : Anchor)
  | seq (first second : Node)
  | alt (first second : Node)
  | loop (mode : LoopMode) (min : Nat) (max : Option Nat) (body : Node)
  /-- A group without a number. -/
  | scope (body : Node)
  | capture (group : Nat) (body : Node)
  | atomic (body : Node)
  | ahead (negated : Bool) (body : Node)
  | behind (negated : Bool) (width : Nat) (body : Node)
  | backref (group : Nat) (fold : Fold) (width : Width)
  /-- One of two nodes, by whether a group has matched. -/
  | branch (group : Nat) (yes no : Node)
  deriving DecidableEq, Repr

namespace Width

def both (a b : Width) : Width :=
  ⟨a.least + b.least, a.most.bind fun m => b.most.map (m + ·)⟩

def either (a b : Width) : Width :=
  ⟨min a.least b.least, a.most.bind fun m => b.most.map (max m ·)⟩

/-- The width of between `min` and `max` rounds. -/
def rounds (w : Width) (min : Nat) (max : Option Nat) : Width :=
  ⟨w.least * min,
   if w.most = some 0 ∨ max = some 0 then some 0 else w.most.bind fun m => max.map (m * ·)⟩

end Width

/-- The least and the greatest length that a node matches. -/
def Node.width : Node → Width
  | .empty | .anchor _ | .ahead _ _ | .behind _ _ _ => ⟨0, some 0⟩
  | .char _ | .dot _ => ⟨1, some 1⟩
  | .seq a b => a.width.both b.width
  | .alt a b | .branch _ a b => a.width.either b.width
  | .loop _ min max body => body.width.rounds min max
  | .scope body | .capture _ body | .atomic body => body.width
  | .backref _ _ w => w

end Formwork.Pattern
