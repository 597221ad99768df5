import Formwork.Console.Markup
import Formwork.Console.Wrap
import Formwork.Number.Binary

/-!
Tables on a terminal: a title in the middle, a header in a heavy frame, and rows in a light one.
Columns are as wide as their texts; where there is no room for that, the widest are narrowed first.
-/
namespace Formwork.Console
open Formwork.Text

structure Table where
  title : String
  headers : List String
  rows : List (List String)

/-- The shown texts of a table. -/
structure Cells where
  title : List Char
  headers : List (List Char)
  rows : List (List (List Char))

def Table.cells (t : Table) : Except MarkupError Cells := do
  let headers ← t.headers.mapM plainText
  let rows ← t.rows.mapM fun r => r.mapM plainText
  pure ⟨← plainText t.title, headers, rows⟩

/-- The width of the longest line of a text. -/
def naturalWidth (text : List Char) : Nat := ((lines text).map width).foldl max 0

/-- The width of a column with a space on both sides of its texts. -/
def columnWidth (room : Nat) (column : List (List Char)) : Nat :=
  min room ((column.map naturalWidth).foldl max 0 + 2)

/-- Takes `total` away from the values in the proportion of their shares, from none more than
`most`. -/
def reduce (most total shares : Nat) : List (Nat × Nat) → List Nat
  | [] => []
  | (share, value) :: rest =>
    if share = 0 || shares = 0 || most = 0 then value :: reduce most total shares rest
    else
      let part := min most (Binary64.roundedQuotient (share * total) shares)
      (value - part) :: reduce most (total - part) (shares - share) rest

/-- Narrows the widest columns to the next width, until all fit; `fuel` bounds the rounds. -/
def narrow (room : Nat) : (fuel : Nat) → List Nat → List Nat
  | 0, widths => widths
  | fuel + 1, widths =>
    let excess := sum widths - room
    if excess = 0 then widths
    else
      let widest := widths.foldl max 0
      let next := (widths.map fun w => if w = widest then 0 else w).foldl max 0
      let marked := widths.map fun w => (if w = widest then 1 else 0, w)
      narrow room fuel
        (reduce (min excess (widest - next)) excess (sum (marked.map (·.1))) marked)

/-- The widths of columns that share some room. -/
def columnWidths (room : Nat) (columns : List (List (List Char))) : List Nat :=
  let widths := columns.map (columnWidth room)
  narrow room (sum widths) widths

/-- The marks of a frame: left, between columns, and right. -/
structure Marks where
  left : String
  between : String
  right : String

def Marks.line (m : Marks) (parts : List String) : String :=
  m.left ++ m.between.intercalate parts ++ m.right ++ "\n"

/-- A rule between rows. -/
def rule (m : Marks) (mark : Char) (widths : List Nat) : String :=
  m.line (widths.map fun w => String.ofList (List.replicate w mark))

/-- The lines of a cell, each as wide as the column. -/
def cellLines (w : Nat) (text : List Char) : List (List Char) :=
  (wrap .ellipsis (w - 2) text).map fun line => ' ' :: padRight (w - 2) line ++ [' ']

/-- The lines of a row. -/
def rowLines (m : Marks) (widths : List Nat) (texts : List (List Char)) : String :=
  let cells := (widths.zip texts).map fun (w, t) => (w, cellLines w t)
  let height := (cells.map (·.2.length)).foldl max 1
  String.join <| (List.range height).map fun n =>
    m.line (cells.map fun (w, ls) => String.ofList ((ls[n]?).getD (List.replicate w ' ')))

/-- The columns of a table with some number of columns. -/
def columnsOf (count : Nat) (rows : List (List (List Char))) : List (List (List Char)) :=
  (List.range count).map fun n => rows.map fun r => (r[n]?).getD []

/-- A table on a terminal of some width. -/
def Table.render (t : Table) (terminal : Nat) : Except MarkupError String := do
  let c ← t.cells
  let count := c.headers.length
  let frame := count + 1
  let widths := columnWidths (terminal - frame) (columnsOf count (c.headers :: c.rows))
  let total := sum widths + frame
  let title := (wrap .fold total c.title).map fun l => String.ofList (centre total l) ++ "\n"
  let heavy := rowLines ⟨"┃", "┃", "┃"⟩ widths c.headers
  let light := c.rows.map (rowLines ⟨"│", "│", "│"⟩ widths)
  pure <| String.join title ++ rule ⟨"┏", "┳", "┓"⟩ '━' widths ++ heavy ++
    rule ⟨"┡", "╇", "┩"⟩ '━' widths ++ String.join light ++ rule ⟨"└", "┴", "┘"⟩ '─' widths

/-- A text with markup on a terminal of some width. -/
def print (terminal : Nat) (markup : String) : Except MarkupError String := do
  let lines := wrap .fold terminal (← plainText markup)
  pure ("\n".intercalate (lines.map String.ofList) ++ "\n")

end Formwork.Console
