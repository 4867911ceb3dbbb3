import TypeAnnotation.Layout.Cluster
import TypeAnnotation.Text.Blank

/-! # Filling lines

A text is broken into lines before words that no longer fit. Blanks after a word stay with it; at
the end of a line those beyond its room are dropped.
-/
namespace TypeAnnotation.Layout

def withoutControls (text : List Char) : List Char :=
  text.filter fun c => !([7, 8, 11, 12, 13].contains c.toNat)

def lines : List Char → List (List Char)
  | [] => [[]]
  | '\n' :: rest => [] :: lines rest
  | c :: rest =>
    match lines rest with
    | [] => [[c]]
    | first :: more => (c :: first) :: more

/-- The text with a space for each tab and more up to the next multiple of eight cells, behind the
beginning of a part, given in reverse. Each part up to a tab is measured for itself. -/
def expandTabs (used : Nat) (part : List Char) : List Char → List Char
  | [] => part.reverse
  | '\t' :: rest =>
    let part := (' ' :: part).reverse
    let reached := used + width part
    let next := (reached + 7) / 8 * 8
    part ++ List.replicate (next - reached) ' ' ++ expandTabs next [] rest
  | c :: rest => expandTabs used (c :: part) rest

/-- The runs of blanks and of other characters put together to words with the blanks after them.
Blanks in front belong to the first word. -/
def joinRuns : List (List Char) → List (List Char)
  | run :: blanks :: rest => (run ++ blanks) :: joinRuns rest
  | [run] => [run]
  | [] => []

/-- The words of a line, each with the blanks after it. A line of blanks has none. -/
def wordsOf (line : List Char) : List (List Char) :=
  let runs := line.splitBy fun c d => Text.isBlank c == Text.isBlank d
  match runs with
  | first :: rest =>
    if first.any Text.isBlank then
      match joinRuns rest with
      | [] => []
      | word :: words => (first ++ word) :: words
    else joinRuns runs
  | [] => []

/-- The lines that are full, the last one first, the line being filled, and the cells it uses. -/
structure Filling where
  full : List (List Char) := []
  line : List Char := []
  used : Nat := 0
  first : Bool := true

def Filling.begin (f : Filling) (text : List Char) : Filling :=
  if f.first then { line := text, used := width text, first := false }
  else { full := f.line :: f.full, line := text, used := width text, first := false }

/-- Add a word. One that is longer than a line is folded if `fold` says so. -/
def Filling.add (room : Nat) (fold : Bool) (f : Filling) (word : List Char) : Filling :=
  let size := width (Text.trimRight word)
  if f.used + size ≤ room then
    { f with line := f.line ++ word, used := f.used + width word, first := false }
  else if room < size && fold then (chop room word).foldl Filling.begin f
  else f.begin word

def dropExcess (room : Nat) (line : List Char) : List Char :=
  let blanks := (line.reverse.takeWhile Text.isBlank).length
  line.take (line.length - Nat.min blanks (line.length - room))

def fillLine (room : Nat) (fold : Bool) (line : List Char) : List (List Char) :=
  let line := expandTabs 0 [] line
  let filled := match wordsOf line with
    | [] => [line]
    | words =>
      let f := words.foldl (Filling.add room fold) {}
      (f.line :: f.full).reverse
  filled.map (dropExcess room)

def fill (room : Nat) (fold : Bool) (text : List Char) : List (List Char) :=
  (lines (withoutControls text)).flatMap (fillLine room fold)

def crop (room : Nat) (line : List Char) : List Char :=
  if room < width line then cut room line else line

def abbreviate (room : Nat) (line : List Char) : List Char :=
  if room < width line then cut (room - 1) line ++ ['…'] else line

def center (room : Nat) (line : List Char) : List Char :=
  padRight room (List.replicate ((room - width line) / 2) ' ' ++ line)

def paragraph (room : Nat) (text : List Char) : List (List Char) :=
  (fill room true text).map (crop room)

def heading (room : Nat) (text : List Char) : List (List Char) :=
  (fill room true text).map fun line => center room (crop room (Text.trimRight line))

end TypeAnnotation.Layout
