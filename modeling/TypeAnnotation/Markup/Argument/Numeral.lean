import TypeAnnotation.Markup.Argument.Token

/-! # Numerals

Integers in four bases, decimal fractions with exponents, and imaginary numbers. A single underscore
may stand between digits.
-/
namespace TypeAnnotation.Markup.Argument

abbrev NumeralEnd := Except String (List Char)

/-- A character that a name can go on with. Those beyond ASCII are looked at later. -/
def continuesName (c : Char) : Bool := c.isAlphanum || c == '_' || 0x80 ≤ c.toNat

/-- Whether a keyword that may follow a numeral without a blank begins a text. The longer ones have
to end there. -/
def startsWithKeyword (text : List Char) : Bool :=
  ["if", "in", "is"].any (·.toList.isPrefixOf text) ||
    ["and", "else", "for", "or", "not"].any fun word =>
      word.toList.isPrefixOf text && !(text.drop word.length).head?.any continuesName

def endNumeral (kind : String) (rest : List Char) : NumeralEnd :=
  if rest.head?.any (fun c => c.toNat < 0x80 && continuesName c) && !startsWithKeyword rest then
    .error ("invalid " ++ kind ++ " literal")
  else .ok rest

/-- What follows the digits of a base. One is needed after the letter of the base, behind which an
underscore may stand, and one after each underscore. -/
def basedTail (valid : Char → Bool) (needed spaced : Bool) :
    List Char → Except (List Char) (List Char)
  | c :: rest =>
    if valid c then basedTail valid false true rest
    else if c == '_' && spaced then basedTail valid true false rest
    else if needed then .error (c :: rest)
    else .ok (c :: rest)
  | [] => if needed then .error [] else .ok []

def wrongDigit? (kind : String) : List Char → Option String
  | c :: _ =>
    if c.isDigit then some ("invalid digit '" ++ c.toString ++ "' in " ++ kind ++ " literal")
    else none
  | [] => none

def basedNumeral (kind : String) (valid : Char → Bool) (text : List Char) : NumeralEnd :=
  match basedTail valid true true text with
  | .error rest => .error ((wrongDigit? kind rest).getD ("invalid " ++ kind ++ " literal"))
  | .ok rest =>
    match wrongDigit? kind rest with
    | some message => .error message
    | none => endNumeral kind rest

def decimalTail : List Char → NumeralEnd
  | '_' :: rest =>
    match rest with
    | d :: rest => if d.isDigit then decimalTail rest else .error "invalid decimal literal"
    | [] => .error "invalid decimal literal"
  | c :: rest => if c.isDigit then decimalTail rest else .ok (c :: rest)
  | [] => .ok []

def imaginaryTail : List Char → NumeralEnd
  | c :: rest =>
    if c == 'j' || c == 'J' then endNumeral "imaginary" rest else endNumeral "decimal" (c :: rest)
  | [] => .ok []

def exponentTail (text : List Char) : NumeralEnd :=
  match text with
  | e :: rest =>
    if e == 'e' || e == 'E' then
      match rest with
      | c :: rest =>
        if c == '+' || c == '-' then
          if rest.head?.any Char.isDigit then do imaginaryTail (← decimalTail rest)
          else .error "invalid decimal literal"
        else if c.isDigit then do imaginaryTail (← decimalTail rest)
        else endNumeral "decimal" text
      | [] => endNumeral "decimal" text
    else imaginaryTail text
  | [] => .ok []

def fractionTail (text : List Char) : NumeralEnd := do
  if text.head?.any Char.isDigit then exponentTail (← decimalTail text) else exponentTail text

def goesOn (text : List Char) : Bool := text.head?.any fun c => ".eEjJ".toList.contains c

def pointTail : List Char → NumeralEnd
  | '.' :: rest => fractionTail rest
  | rest => exponentTail rest

def zerosTail : List Char → NumeralEnd
  | '0' :: rest => zerosTail rest
  | '_' :: rest =>
    match rest with
    | d :: more =>
      if d == '0' then zerosTail more
      else if d.isDigit then .ok rest
      else .error "invalid decimal literal"
    | [] => .error "invalid decimal literal"
  | rest => .ok rest

def zeroNumeral (text : List Char) : NumeralEnd := do
  let rest ← zerosTail text
  let more ← decimalTail rest
  if goesOn more then pointTail more
  else if rest.head?.any Char.isDigit then
    .error ("leading zeros in decimal integer literals are not permitted; " ++
      "use an 0o prefix for octal integers")
  else endNumeral "decimal" more

def isHexDigit (c : Char) : Bool := c.isDigit || ('a' ≤ c && c ≤ 'f') || ('A' ≤ c && c ≤ 'F')

/-- What follows the numeral that a text begins with. Its first character is a digit, or a point
before one. -/
def numeral (text : List Char) : NumeralEnd :=
  match text with
  | '0' :: b :: rest =>
    if b == 'x' || b == 'X' then basedNumeral "hexadecimal" isHexDigit rest
    else if b == 'o' || b == 'O' then basedNumeral "octal" (fun c => '0' ≤ c && c < '8') rest
    else if b == 'b' || b == 'B' then basedNumeral "binary" (fun c => c == '0' || c == '1') rest
    else zeroNumeral text
  | '0' :: _ => zeroNumeral text
  | '.' :: rest => fractionTail rest
  | _ => do pointTail (← decimalTail text)

end TypeAnnotation.Markup.Argument
