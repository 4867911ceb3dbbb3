import TypeAnnotation.Markup.Argument.Token

/-! # Quoted texts

What can be wrong within the marks of a quoted text: its escapes, and the expressions that a
formatted text has between braces.
-/
namespace TypeAnnotation.Markup.Argument

def hexValue? (c : Char) : Option Nat :=
  if c.isDigit then some (c.toNat - 48)
  else if 'a' ≤ c && c ≤ 'f' then some (c.toNat - 87)
  else if 'A' ≤ c && c ≤ 'F' then some (c.toNat - 55)
  else none

def hexNumber (value count : Nat) : Nat → List Char → Except Nat Nat
  | 0, _ => .ok value
  | _, [] => .error count
  | more + 1, c :: rest =>
    match hexValue? c with
    | some digit => hexNumber (16 * value + digit) (count + 1) more rest
    | none => .error count

structure BadEscape where
  size : Nat
  reason : String
deriving DecidableEq, Repr

/-- What is wrong with the escape that a backslash begins, given what follows it. A name between
braces is taken to be that of a character. -/
def badEscape? : List Char → Option BadEscape
  | 'x' :: rest => digits 2 "truncated \\xXX escape" rest
  | 'u' :: rest => digits 4 "truncated \\uXXXX escape" rest
  | 'U' :: rest => digits 8 "truncated \\UXXXXXXXX escape" rest
  | 'N' :: rest =>
    let malformed (size : Nat) := some ⟨size, "malformed \\N character escape"⟩
    match rest with
    | '\x7b' :: rest =>
      let name := rest.takeWhile (· != '\x7d')
      if name.length = rest.length || name.isEmpty then malformed (name.length + 2) else none
    | _ => malformed 1
  | _ => none
where
  digits (count : Nat) (truncated : String) (rest : List Char) : Option BadEscape :=
    match hexNumber 0 0 count rest with
    | .ok value => if 0x10ffff < value then some ⟨count + 1, "illegal Unicode character"⟩ else none
    | .error found => some ⟨found + 1, truncated⟩

/-- The complaint about the first bad escape of a text. A character beyond ASCII counts as ten, and
a backslash before one as six. -/
def textComplaint? (position : Nat) : List Char → Option String
  | [] => none
  | '\\' :: c :: rest =>
    match badEscape? (c :: rest) with
    | some bad =>
      let last := position + bad.size
      some ("(unicode error) 'unicodeescape' codec can't decode bytes in position " ++
        toString position ++ "-" ++ toString last ++ ": " ++ bad.reason)
    | none => textComplaint? (position + (if c.toNat < 0x80 then 2 else 16)) rest
  | c :: rest => textComplaint? (position + (if c.toNat < 0x80 then 1 else 10)) rest

def bytesComplaint? (position : Nat) : List Char → Option String
  | [] => none
  | '\\' :: 'x' :: rest =>
    match hexNumber 0 0 2 rest with
    | .ok _ => bytesComplaint? (position + 2) rest
    | .error _ => some ("(value error) invalid \\x escape at position " ++ toString position)
  | '\\' :: _ :: rest => bytesComplaint? (position + 2) rest
  | _ :: rest => bytesComplaint? (position + 1) rest

def expectingBrace : String := "f-string: expecting '\x7d'"

/-- How the search for the end of an expression goes on: in a quoted text up to its marks, or
between brackets. -/
structure Search where
  mark : Option Char := none
  triple : Bool := false
  brackets : List Char := []
deriving Repr

/-- The expression after an opening brace, in reverse behind what was found of it, and what follows
it. So many characters are taken for certain. -/
def expressionEnd (s : Search) (skip : Nat) (found : List Char) :
    List Char → Except String (List Char × List Char)
  | [] =>
    if s.mark.isSome then .error "f-string: unterminated string"
    else match s.brackets with
      | b :: _ => .error ("f-string: unmatched '" ++ b.toString ++ "'")
      | [] => .error expectingBrace
  | c :: rest =>
    if skip ≠ 0 then expressionEnd s (skip - 1) (c :: found) rest
    else if c == '\\' then .error "f-string expression part cannot include a backslash"
    else if s.mark.isSome then
      if s.mark == some c then
        if !s.triple then expressionEnd { s with mark := none } 0 (c :: found) rest
        else if [c, c].isPrefixOf rest then
          expressionEnd { s with mark := none, triple := false } 2 (c :: found) rest
        else expressionEnd s 0 (c :: found) rest
      else expressionEnd s 0 (c :: found) rest
    else if c == '\'' || c == '"' then
      if [c, c].isPrefixOf rest then
        expressionEnd { s with mark := some c, triple := true } 2 (c :: found) rest
      else expressionEnd { s with mark := some c } 0 (c :: found) rest
    else if c == '[' || c == '\x7b' || c == '(' then
      if 200 ≤ s.brackets.length then .error "f-string: too many nested parenthesis"
      else expressionEnd { s with brackets := c :: s.brackets } 0 (c :: found) rest
    else if c == '#' then .error "f-string expression part cannot include '#'"
    else if s.brackets.isEmpty && "!:\x7d=<>".toList.contains c then
      if "!=<>".toList.contains c && rest.head? == some '=' then
        expressionEnd s 1 (c :: found) rest
      else if c == '<' || c == '>' then expressionEnd s 0 (c :: found) rest
      else .ok (found, c :: rest)
    else if c == ']' || c == '\x7d' || c == ')' then
      match s.brackets with
      | [] => .error ("f-string: unmatched '" ++ c.toString ++ "'")
      | b :: outer =>
        if [('(', ')'), ('[', ']'), ('\x7b', '\x7d')].contains (b, c) then
          expressionEnd { s with brackets := outer } 0 (c :: found) rest
        else
          .error ("f-string: closing parenthesis '" ++ c.toString ++
            "' does not match opening parenthesis '" ++ b.toString ++ "'")
    else expressionEnd s 0 (c :: found) rest

def expressionComplaint? (inner : List Char → Option String) (expression : List Char)
    (behind : Option Char) : Option String :=
  if expression.all fun c => " \t\n\x0c".toList.contains c then
    match behind with
    | some c =>
      some (if "!:=".toList.contains c then
        "f-string: expression required before '" ++ c.toString ++ "'"
        else "f-string: empty expression not allowed")
    | none => none
  else inner ('(' :: expression ++ [')'])

def conversionTail : List Char → Except String (List Char)
  | '!' :: rest =>
    match rest with
    | [] => .error expectingBrace
    | c :: rest =>
      if c == 's' || c == 'r' || c == 'a' then .ok rest
      else .error "f-string: invalid conversion character: expected 's', 'r', or 'a'"
  | rest => .ok rest

inductive Part
  | plain
  | escaped
  | nameStart
  | name
deriving DecidableEq, Repr

structure Literal where
  reversed : List Char
  rest : List Char
  doubled : Bool := false
deriving Repr

/-- The plain part up to a brace, behind what was found of it. A doubled brace ends it, too, and
stands for one, except in a nested format. -/
def literalPart (verbatim nested : Bool) (part : Part) (found : List Char) :
    List Char → Except String Literal
  | [] => .ok ⟨found, [], false⟩
  | c :: rest =>
    match part with
    | .name => literalPart verbatim nested (if c == '\x7d' then .plain else .name) (c :: found) rest
    | .nameStart =>
      literalPart verbatim nested (if c == '\x7b' then .name else .plain) (c :: found) rest
    | part =>
      if part = .escaped && c == 'N' then
        literalPart verbatim nested .nameStart (c :: found) rest
      else if part = .plain && c == '\\' && !verbatim && !rest.isEmpty then
        literalPart verbatim nested .escaped (c :: found) rest
      else if c != '\x7b' && c != '\x7d' then literalPart verbatim nested .plain (c :: found) rest
      else if nested then .ok ⟨found, c :: rest, false⟩
      else if rest.head? == some c then .ok ⟨c :: found, rest.drop 1, true⟩
      else if c == '\x7d' then .error "f-string: single '\x7d' is not allowed"
      else .ok ⟨found, c :: rest, false⟩

/-- What follows a formatted text, which is nested in others so many times. Each step goes forward
by a brace. -/
def formattedTail (inner : List Char → Option String) (verbatim : Bool) :
    Nat → Nat → List Char → Except String (List Char)
  | 0, _, text => .ok text
  | fuel + 1, level, text => do
    let literal ← literalPart verbatim (level ≠ 0) .plain [] text
    match if verbatim then none else textComplaint? 0 literal.reversed.reverse with
    | some complaint => .error complaint
    | none =>
      if literal.doubled then formattedTail inner verbatim fuel level literal.rest
      else match literal.rest with
        | '\x7b' :: rest =>
          if 2 ≤ level then .error "f-string: expressions nested too deeply"
          else
            let (expression, rest) ← expressionEnd {} 0 [] rest
            match expressionComplaint? inner expression.reverse rest.head? with
            | some complaint => .error complaint
            | none =>
              let rest ← conversionTail (if rest.head? == some '=' then rest.drop 1 else rest)
              let rest ←
                match rest with
                | ':' :: rest =>
                  if rest.isEmpty then .error expectingBrace
                  else formattedTail inner verbatim fuel (level + 1) rest
                | rest => .ok rest
              match rest with
              | '\x7d' :: rest => formattedTail inner verbatim fuel level rest
              | _ => .error expectingBrace
        | rest => if level ≠ 0 && rest.isEmpty then .error expectingBrace else .ok rest

def formattedComplaint? (inner : List Char → Option String) (verbatim : Bool) (text : List Char) :
    Option String :=
  match formattedTail inner verbatim (text.length + 1) 0 text with
  | .ok _ => none
  | .error complaint => some complaint

def quotedComplaint? (quoting : Quoting) (text : List Char) : Option String :=
  if quoting.bytes && text.any (0x80 ≤ ·.toNat) then
    some "bytes can only contain ASCII literal characters"
  else if quoting.verbatim || quoting.formatted then none
  else if quoting.bytes then bytesComplaint? 0 text
  else textComplaint? 0 text

def joinedComplaint? (inner : List Char → Option String) (before : Option Bool) :
    List (Quoting × List Char) → Option String
  | [] => none
  | (quoting, text) :: rest =>
    let mixed := before.any (· != quoting.bytes)
    (quotedComplaint? quoting text)
      |>.or (if mixed then some "cannot mix bytes and nonbytes literals" else none)
      |>.or (if quoting.formatted then formattedComplaint? inner quoting.verbatim text else none)
      |>.or (joinedComplaint? inner (some quoting.bytes) rest)

end TypeAnnotation.Markup.Argument
