import TypeAnnotation.Layout.Wrap

/-! # Tables

A table has a title, a header and rows of cells, in a frame with a heavy line around the header. A
column is as wide as its widest cell. Where that is more than the room, the widest columns give way
first, and their cells are broken into lines.
-/
namespace TypeAnnotation.Layout

structure Column (α : Type) where
  header : α
  centered : Bool := false
  cells : List α
deriving Repr

structure Table (α : Type) where
  title : α
  columns : List (Column α)
deriving Repr

section
variable {α β ε : Type}

def Column.map (f : α → β) (c : Column α) : Column β := ⟨f c.header, c.centered, c.cells.map f⟩

def Table.map (f : α → β) (t : Table α) : Table β := ⟨f t.title, t.columns.map (·.map f)⟩

def Column.mapTexts (f : α → Except ε β) (c : Column α) : Except ε (Column β) := do
  let header ← f c.header
  let cells ← c.cells.mapM f
  return ⟨header, c.centered, cells⟩

/-- The table with other texts, unless there is none for one of them. The title comes last. -/
def Table.mapTexts (f : α → Except ε β) (t : Table α) : Except ε (Table β) := do
  let columns ← t.columns.mapM (Column.mapTexts f)
  let title ← f t.title
  return ⟨title, columns⟩

end

def isLineEnd (c : Char) : Bool :=
  let n := c.toNat
  (10 ≤ n && n ≤ 13) || (28 ≤ n && n ≤ 30) || n == 0x85 || n == 0x2028 || n == 0x2029

def measure (text : List Char) : Nat :=
  (((withoutControls text).splitBy fun c d => !isLineEnd c && !isLineEnd d).map fun line =>
    width (line.filter (!isLineEnd ·))).foldl Nat.max 0

def Column.measure (limit : Nat) (c : Column (List Char)) : Nat :=
  ((c.header :: c.cells).map fun text => Nat.min (Layout.measure text + 2) limit).foldl Nat.max 0

def roundDiv (a b : Nat) : Nat :=
  let q := a / b
  let r := a % b
  if b < 2 * r || (2 * r = b && q % 2 = 1) then q + 1 else q

/-- Take an excess evenly from the widths that a test picks, of each at most so much. -/
def reduce (picks : Nat → Bool) (most : Nat) : Nat → Nat → List Nat → List Nat
  | _, _, [] => []
  | excess, share, w :: rest =>
    if picks w && most ≠ 0 then
      let part := Nat.min most (roundDiv excess share)
      (w - part) :: reduce picks most (excess - part) (share - 1) rest
    else w :: reduce picks most excess share rest

def total (widths : List Nat) : Nat := widths.foldl Nat.add 0

def collapse (limit : Nat) : Nat → List Nat → List Nat
  | 0, widths => widths
  | fuel + 1, widths =>
    if total widths ≤ limit then widths
    else
      let excess := total widths - limit
      let widest := widths.foldl Nat.max 0
      let second := (widths.filter (· ≠ widest)).foldl Nat.max 0
      let most := Nat.min excess (widest - second)
      collapse limit fuel (reduce (· = widest) most excess (widths.count widest) widths)

namespace Table

def widths (limit : Nat) (t : Table (List Char)) : List Nat :=
  let natural := t.columns.map (·.measure limit)
  if total natural ≤ limit then natural
  else
    let narrowed := collapse limit (total natural) natural
    (t.columns.zip narrowed).map fun (c, w) => c.measure w

/-- The lines of a cell, each as wide as its column. A joiner at the end of a line hides a space, so
that one more is needed. -/
def cellLines (centered : Bool) (columnWidth : Nat) (text : List Char) : List (List Char) :=
  let room := columnWidth - 2
  (fill room false text).map fun line =>
    let inner :=
      if centered then center room (abbreviate room (Text.trimRight line))
      else padRight room (abbreviate room line)
    ' ' :: padRight room inner ++ [' ']

def joinCells (bar : Char) (cells : List (List Char)) : List Char :=
  bar :: cells.flatMap (· ++ [bar])

def rowLines (bar : Char) (cells : List (Nat × List (List Char))) : List (List Char) :=
  let height := (cells.map (·.2.length)).foldl Nat.max 1
  (List.range height).map fun i =>
    joinCells bar (cells.map fun (w, lines) => (lines[i]?).getD (List.replicate w ' '))

def rule (left line middle right : Char) (widths : List Nat) : List Char :=
  left :: [middle].intercalate (widths.map fun w => List.replicate w line) ++ [right]

def widthsIn (terminal : Nat) (t : Table (List Char)) : List Nat :=
  t.widths (terminal - (t.columns.length + 1))

def titleLines (terminal : Nat) (t : Table (List Char)) : List (List Char) :=
  if t.title.isEmpty then []
  else heading (total (t.widthsIn terminal) + (t.columns.length + 1)) t.title

def render (terminal : Nat) (t : Table (List Char)) : List (List Char) :=
  let widths := t.widthsIn terminal
  let columns := t.columns.zip widths
  let row (bar : Char) (text : Column (List Char) → List Char) : List (List Char) :=
    rowLines bar (columns.map fun (c, w) => (w, cellLines c.centered w (text c)))
  let count := (t.columns.map (·.cells.length)).foldl Nat.max 0
  t.titleLines terminal ++
    [rule '┏' '━' '┳' '┓' widths] ++ row '┃' (·.header) ++ [rule '┡' '━' '╇' '┩' widths] ++
    (List.range count).flatMap (fun i => row '│' fun c => (c.cells[i]?).getD []) ++
    [rule '└' '─' '┴' '┘' widths]

end Table

end TypeAnnotation.Layout
