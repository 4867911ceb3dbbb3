import TypeAnnotation.Document
import TypeAnnotation.Text.Quoted
import TypeAnnotation.Yaml.Plain

/-! # Documents in YAML

Block style, in ASCII, with lines of 80 columns where a text can be folded. A string is plain if
it reads back as a string, otherwise in single quotes, and in double quotes if it holds anything
but printable ASCII characters and line feeds.
-/
namespace TypeAnnotation.Document.Yaml

open TypeAnnotation.Yaml (isBreak isGapOrEnd)

/-- What has been written: the text from its end, the column, whether the last character is a
space, and whether the line holds nothing but marks of indentation. -/
structure Pen where
  reversed : List Char := []
  column : Nat := 0
  afterSpace : Bool := true
  indenting : Bool := true

namespace Pen

def put (p : Pen) (text : List Char) : Pen :=
  { p with reversed := text.reverse ++ p.reversed, column := p.column + text.length }

def breakLine (p : Pen) (c : Char) : Pen := ⟨c :: p.reversed, 0, true, true⟩

def toIndent (p : Pen) (indent : Nat) : Pen :=
  let p :=
    if !p.indenting || indent < p.column || (p.column == indent && !p.afterSpace) then
      p.breakLine '\n'
    else p
  if p.column < indent then
    { p.put (List.replicate (indent - p.column) ' ') with afterSpace := true }
  else p

def spaced (p : Pen) (text : List Char) : Pen :=
  { p.put (if p.afterSpace then text else ' ' :: text) with
    afterSpace := false, indenting := false }

def indentMark (p : Pen) (c : Char) : Pen := { p.spaced [c] with indenting := p.indenting }

def closeMark (p : Pen) (c : Char) : Pen :=
  { p.put [c] with afterSpace := false, indenting := false }

end Pen

def lineWidth : Nat := 80

def hasPair (p q : Char → Bool) : List Char → Bool
  | c :: d :: rest => (p c && q d) || hasPair p q (d :: rest)
  | _ => false

def hasIndicator (text : List Char) : Bool :=
  let first := match text with
    | [] => false
    | c :: rest =>
      "#,[]&*!|>'\"%@\x7b\x7d\x60".toList.contains c ||
        ((c == '?' || c == ':' || c == '-') && isGapOrEnd (rest.headD ' '))
  first || "---".toList.isPrefixOf text || "...".toList.isPrefixOf text ||
    hasPair (· == ':') isGapOrEnd (text.drop 1 ++ [' ']) || hasPair isGapOrEnd (· == '#') text

def isSpace (c : Char) : Bool := c == ' '

def allowsSingle (text : List Char) : Bool :=
  text.all (fun c => c == '\n' || (0x20 ≤ c.toNat && c.toNat ≤ 0x7e)) &&
    !hasPair isBreak isSpace text && !hasPair isSpace isBreak text

def allowsPlain (text : List Char) : Bool :=
  allowsSingle text && !text.any isBreak && !hasIndicator text &&
    !isSpace (text.headD 'x') && !isSpace (text.getLastD 'x')

def escapeLetter? (c : Char) : Option Char :=
  [('\x00', '0'), ('\x07', 'a'), ('\x08', 'b'), ('\t', 't'), ('\n', 'n'), ('\x0b', 'v'),
    ('\x0c', 'f'), ('\r', 'r'), ('\x1b', 'e'), ('"', '"'), ('\\', '\\'), ('\u0085', 'N'),
    ('\u00a0', '_'), ('\u2028', 'L'), ('\u2029', 'P')].lookup c

def escape? (c : Char) : Option (List Char) :=
  let n := c.toNat
  match escapeLetter? c with
  | some letter => some ['\\', letter]
  | none =>
    if 0x20 ≤ n && n ≤ 0x7e then none
    else
      let digits (width : Nat) := (Text.hexDigits width n).map Char.toUpper
      if n ≤ 0xff then some ('\\' :: 'x' :: digits 2)
      else if n ≤ 0xffff then some ('\\' :: 'u' :: digits 4)
      else some ('\\' :: 'U' :: digits 8)

def writePlain (fold : Bool) (indent : Nat) (text : List Char) (p : Pen) : Pen :=
  let runs := text.splitBy fun c d => isSpace c == isSpace d
  runs.foldl (fun p run =>
    if run == [' '] && lineWidth < p.column && fold then
      { p.toIndent indent with afterSpace := false, indenting := false }
    else p.put run) (p.spaced [])

def singleClass (c : Char) : Nat := if isSpace c then 0 else if isBreak c then 1 else 2

def writeSingleRuns (fold : Bool) (indent : Nat) : Bool → List (List Char) → Pen → Pen
  | _, [], p => p
  | first, run :: rest, p =>
    let head := run.headD 'x'
    let p :=
      if isSpace head then
        if run.length == 1 && lineWidth < p.column && fold && !first && !rest.isEmpty then
          p.toIndent indent
        else p.put run
      else if isBreak head then
        let p := if head == '\n' then p.breakLine '\n' else p
        (run.foldl Pen.breakLine p).toIndent indent
      else p.put (run.flatMap fun c => if c == '\x27' then [c, c] else [c])
    writeSingleRuns fold indent false rest p

def writeSingle (fold : Bool) (indent : Nat) (text : List Char) (p : Pen) : Pen :=
  let runs := text.splitBy fun c d => singleClass c == singleClass d
  (writeSingleRuns fold indent true runs (p.spaced ['\x27'])).closeMark '\x27'

/-- Write the rest of a text in double quotes, `waiting` being the characters, from the last, that
are not written yet. A line is folded before a space or next to an escape. -/
def writeDoubleRest (fold : Bool) (indent : Nat) :
    Bool → List Char → List Char → Pen → Pen
  | _, waiting, [], p => p.put waiting.reverse
  | first, waiting, c :: rest, p =>
    let (p, waiting, next) := match escape? c with
      | some escape => ((p.put waiting.reverse).put escape, [], rest)
      | none => (p, waiting, c :: rest)
    let escaped := next.length == rest.length
    let beyond := lineWidth + (if escaped then 1 else 0) < p.column + waiting.length
    if fold && !first && !rest.isEmpty && (c == ' ' || waiting.isEmpty) && beyond then
      let p := { (p.put (waiting.reverse ++ ['\\'])).toIndent indent with
        afterSpace := false, indenting := false }
      let p := if next.headD 'x' == ' ' then p.put ['\\'] else p
      writeDoubleRest fold indent false (if escaped then [] else [c]) rest p
    else writeDoubleRest fold indent false (if escaped then [] else c :: waiting) rest p

def writeDouble (fold : Bool) (indent : Nat) (text : List Char) (p : Pen) : Pen :=
  (writeDoubleRest fold indent true [] text (p.spaced ['"'])).closeMark '"'

def writeString (fold : Bool) (indent : Nat) (s : String) (p : Pen) : Pen :=
  let text := s.toList
  if allowsPlain text && TypeAnnotation.Yaml.Plain.typeOf s == .str then
    writePlain fold indent text p
  else if allowsSingle text then writeSingle fold indent text p
  else writeDouble fold indent text p

def isSimpleKey (key : String) : Bool :=
  key ≠ "" && key.length < 123 && !key.toList.any isBreak

def writeKey (indent : Nat) (key : String) (p : Pen) : Pen :=
  let p := p.toIndent indent
  if isSimpleKey key then (writeString false (indent + 2) key p).closeMark ':'
  else ((writeString true (indent + 2) key (p.indentMark '?')).toIndent indent).indentMark ':'

mutual

/-- Write a document inside of a collection with the given indentation, if it is in one.
`inMapping` says that it is the value of an entry. -/
def write (indent : Option Nat) (inMapping : Bool) (p : Pen) : Document → Pen
  | .null => writePlain false 0 "null".toList p
  | .bool b => writePlain false 0 (if b then "true" else "false").toList p
  | .string s => writeString true ((indent.getD 0) + 2) s p
  | .list [] => (p.spaced ['[']).closeMark ']'
  | .list items =>
    let inner := match indent with
      | none => 0
      | some n => if inMapping && !p.indenting then n else n + 2
    writeItems inner p items
  | .mapping [] => (p.spaced ['\x7b']).closeMark '\x7d'
  | .mapping entries =>
    let inner := match indent with
      | none => 0
      | some n => n + 2
    writeEntries inner p entries

def writeItems (indent : Nat) (p : Pen) : List Document → Pen
  | [] => p
  | item :: rest =>
    writeItems indent (write (some indent) false ((p.toIndent indent).indentMark '-') item) rest

def writeEntries (indent : Nat) (p : Pen) : List (String × Document) → Pen
  | [] => p
  | (key, value) :: rest =>
    writeEntries indent (write (some indent) true (writeKey indent key p) value) rest

end

end Yaml

def toYaml (document : Document) : String :=
  String.ofList ((Yaml.write none false {} document).toIndent 0).reversed.reverse

end TypeAnnotation.Document
