import TypeAnnotation.Markup.Argument.Numeral
import TypeAnnotation.Text.Letter
import TypeAnnotation.Text.Printable

/-! # Dividing an argument into tokens

The scanner keeps the brackets that are open. Outside of brackets a line ends an expression, and
how far the next one is indented counts.
-/
namespace TypeAnnotation.Markup.Argument

/-- A place in a text, with what is open there. A line is blank if it has no tokens. -/
structure Scanner where
  rest : List Char
  line : Nat := 1
  brackets : List Bracket := []
  indents : List (Nat × Nat) := []
  atStart : Bool := true
  blank : Bool := false
deriving Repr

namespace Scanner

def stick (s : Scanner) (message : String) : Stop := .stuck message s.brackets.head?

def atEnd (s : Scanner) : Stop :=
  match s.brackets with
  | [] => .stuck "unexpected EOF while parsing" none
  | b :: _ => .stuck b.unclosed (some b)

abbrev Step := Except Stop (List Token × Scanner)

def emit (s : Scanner) (kind : Token.Kind) (text : List Char) (rest : List Char) : Step :=
  .ok ([⟨kind, String.ofList text, s.line, s.brackets.length⟩], { s with rest := rest })

def continued (s : Scanner) : List Char → Except Stop (List Char)
  | '\n' :: rest => if rest.isEmpty then .error s.atEnd else .ok rest
  | _ => .error (s.stick "unexpected character after line continuation character")

/-- How far a line is indented, with tabs to every eighth column and with tabs as one column. A
backslash at its beginning fixes that for the line behind it. -/
structure Margin where
  column : Nat := 0
  narrow : Nat := 0
  hidden : Nat := 0
  lines : Nat := 0
deriving DecidableEq, Repr

def margin (s : Scanner) (m : Margin) : List Char → Except Stop (Margin × List Char)
  | ' ' :: rest => margin s { m with column := m.column + 1, narrow := m.narrow + 1 } rest
  | '\t' :: rest =>
    margin s { m with column := (m.column / 8 + 1) * 8, narrow := m.narrow + 1 } rest
  | '\x0c' :: rest => margin s { m with column := 0, narrow := 0 } rest
  | '\\' :: rest =>
    match rest with
    | '\n' :: rest =>
      if rest.isEmpty then .error s.atEnd
      else
        let hidden := if m.hidden = 0 then m.column else m.hidden
        margin s { m with hidden := hidden, lines := m.lines + 1 } rest
    | _ => .error (s.stick "unexpected character after line continuation character")
  | rest => .ok (m, rest)

def leave (column : Nat) (indents : List (Nat × Nat)) : Nat × List (Nat × Nat) :=
  let left := indents.takeWhile fun (other, _) => column < other
  (left.length, indents.drop left.length)

def indentation (s : Scanner) (column narrow : Nat) : Step :=
  let tabs := s.stick "inconsistent use of tabs and spaces in indentation"
  let (current, currentNarrow) := s.indents.head?.getD (0, 0)
  let block (kind : Token.Kind) : Token := ⟨kind, "", s.line, 0⟩
  if column = current then
    if narrow = currentNarrow then .ok ([], s) else .error tabs
  else if current < column then
    if narrow ≤ currentNarrow then .error tabs
    else .ok ([block .indent], { s with indents := (column, narrow) :: s.indents })
  else
    let (count, indents) := leave column s.indents
    let (outer, outerNarrow) := indents.head?.getD (0, 0)
    if column ≠ outer then
      .error (s.stick "unindent does not match any outer indentation level")
    else if narrow ≠ outerNarrow then .error tabs
    else .ok (List.replicate count (block .dedent), { s with indents := indents })

def lineStart (s : Scanner) : Step := do
  let (m, rest) ← s.margin {} s.rest
  let blank := rest.head? == some '#' || rest.head? == some '\n'
  let s := { s with rest := rest, line := s.line + m.lines, atStart := false, blank := blank }
  if blank || !s.brackets.isEmpty then return ([], s)
  else if m.hidden = 0 then s.indentation m.column m.narrow
  else s.indentation m.hidden m.hidden

/-- The inside of a quoted text up to its closing marks, in reverse, and what follows them, or the
number of lines that it runs on without them. -/
def quoted (mark : Char) (triple : Bool) (lines : Nat) (inside : List Char) :
    List Char → Except Nat (List Char × List Char)
  | '\\' :: rest =>
    match rest with
    | [] => .error lines
    | c :: rest =>
      quoted mark triple (if c == '\n' then lines + 1 else lines) (c :: '\\' :: inside) rest
  | c :: rest =>
    if c == mark then
      if triple then
        if [mark, mark].isPrefixOf rest then .ok (inside, rest.drop 2)
        else quoted mark triple lines (c :: inside) rest
      else .ok (inside, rest)
    else if c == '\n' then
      if triple then quoted mark triple (lines + 1) (c :: inside) rest else .error lines
    else quoted mark triple lines (c :: inside) rest
  | [] => .error lines

def text (s : Scanner) (quoting : Quoting) (mark : Char) (rest : List Char) : Step :=
  let triple := [mark, mark].isPrefixOf rest
  match quoted mark triple 0 [] (if triple then rest.drop 2 else rest) with
  | .ok (inside, rest) => do
    let lines := inside.count '\n'
    let (tokens, s) ← s.emit (.quoted quoting) inside.reverse rest
    return (tokens, { s with line := s.line + lines })
  | .error lines =>
    .error (.refused ((if triple then "unterminated triple-quoted" else "unterminated") ++
      " string literal (detected at line " ++ toString (s.line + lines) ++ ")"))

def quoting? (letters : List Char) : Option Quoting :=
  match letters.map Char.toLower with
  | [] | ['u'] => some {}
  | ['b'] => some { bytes := true }
  | ['r'] => some { verbatim := true }
  | ['f'] => some { formatted := true }
  | ['b', 'r'] | ['r', 'b'] => some { bytes := true, verbatim := true }
  | ['f', 'r'] | ['r', 'f'] => some { formatted := true, verbatim := true }
  | _ => none

def codePoint (c : Char) : String :=
  let digits := (Nat.toDigits 16 c.toNat).map Char.toUpper
  "U+" ++ String.ofList (List.replicate (4 - digits.length) '0' ++ digits)

def invalidCharacter (c : Char) : String :=
  if Text.isPrintable c then "invalid character '" ++ c.toString ++ "' (" ++ codePoint c ++ ")"
  else "invalid non-printable character " ++ codePoint c

def word (s : Scanner) (letters rest : List Char) : Step :=
  match Text.misfit? letters with
  | some c => .error (.refused (invalidCharacter c))
  | none =>
    s.emit (if keywords.contains (String.ofList letters) then .word else .name) letters rest

def bracket (s : Scanner) (c : Char) (rest : List Char) : Step :=
  if c == '(' || c == '\x7b' || c == '[' then
    if 200 ≤ s.brackets.length then .error (.refused "too many nested parentheses")
    else { s with brackets := ⟨c, s.line⟩ :: s.brackets }.emit .word [c] rest
  else
    match s.brackets with
    | [] => .error (.refused ("unmatched '" ++ c.toString ++ "'"))
    | b :: outer =>
      if [('(', ')'), ('[', ']'), ('\x7b', '\x7d')].contains (b.char, c) then
        { s with brackets := outer }.emit .word [c] rest
      else
        .error (.refused ("closing parenthesis '" ++ c.toString ++
          "' does not match opening parenthesis '" ++ b.char.toString ++ "'" ++
          if b.line = s.line then "" else " on line " ++ toString b.line))

def sign (s : Scanner) (c : Char) (rest : List Char) : Step :=
  if "()[]\x7b\x7d".toList.contains c then s.bracket c rest
  else
    match operators.find? fun operator => operator.toList.isPrefixOf (c :: rest) with
    | some operator => s.emit .word operator.toList ((c :: rest).drop operator.length)
    | none =>
      if Text.isPrintable c then s.emit .stray [c] rest
      else .error (.refused (invalidCharacter c))

def numeral (s : Scanner) (text : List Char) : Step :=
  match Argument.numeral text with
  | .ok rest => s.emit .number (text.take (text.length - rest.length)) rest
  | .error message => .error (.refused message)

def token (s : Scanner) : List Char → Step
  | [] => .error (if s.brackets.isEmpty then .finished else s.atEnd)
  | '\n' :: rest =>
    let next := { s with rest := rest, line := s.line + 1, atStart := true }
    if s.blank || !s.brackets.isEmpty then .ok ([], next)
    else .ok ([⟨.newline, "", s.line, 0⟩], next)
  | '\\' :: rest => do
    return ([], { s with rest := ← s.continued rest, line := s.line + 1 })
  | c :: rest =>
    if c.isDigit || (c == '.' && rest.head?.any Char.isDigit) then s.numeral (c :: rest)
    else
      let letters := (c :: rest).takeWhile continuesName
      match (c :: rest).drop letters.length, quoting? letters with
      | mark :: more, some quoting =>
        if mark == '\'' || mark == '"' then s.text quoting mark more
        else if letters.isEmpty then s.sign c rest
        else s.word letters (mark :: more)
      | behind, _ => if letters.isEmpty then s.sign c rest else s.word letters behind

def step (s : Scanner) : Step :=
  if s.atStart then s.lineStart
  else
    let rest := s.rest.dropWhile fun c => c == ' ' || c == '\t' || c == '\x0c'
    s.token (if rest.head? == some '#' then rest.dropWhile (· != '\n') else rest)

def run : Nat → Scanner → Array Token → Scan
  | 0, _, tokens => ⟨tokens, .finished, false⟩
  | fuel + 1, s, tokens =>
    match s.step with
    | .ok (found, s) => run fuel s (tokens ++ found.toArray)
    | .error .finished => ⟨tokens.push ⟨.finish, "", s.line, 0⟩, .finished, true⟩
    | .error stop => ⟨tokens, stop, s.rest.isEmpty⟩

end Scanner

def withLineFeeds : List Char → List Char
  | '\r' :: '\n' :: rest => '\n' :: withLineFeeds rest
  | '\r' :: rest => '\n' :: withLineFeeds rest
  | c :: rest => c :: withLineFeeds rest
  | [] => []

/-- The tokens of a text. Each step takes a character or begins a line. -/
def scan (text : List Char) : Scan :=
  if text.contains '\x00' then ⟨#[], .refused "source code string cannot contain null bytes", false⟩
  else Scanner.run (2 * text.length + 2) { rest := withLineFeeds text } #[]

end TypeAnnotation.Markup.Argument
