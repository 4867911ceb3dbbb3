import TypeAnnotation.Text.Printable

/-! # Quoted text

Text between quotation marks, on one line and free of unprintable characters. Single marks are
used unless the text holds one and no double mark; the mark in use and the backslash are escaped.
-/
namespace TypeAnnotation.Text

def hexDigits (width n : Nat) : List Char :=
  let digits := Nat.toDigits 16 n
  List.replicate (width - digits.length) '0' ++ digits

def quotationMark (cs : List Char) : Char :=
  if cs.contains '\x27' && !cs.contains '"' then '"' else '\x27'

def escapeChar (mark c : Char) : List Char :=
  if c == mark || c == '\\' then ['\\', c]
  else if c == '\t' then ['\\', 't']
  else if c == '\n' then ['\\', 'n']
  else if c == '\r' then ['\\', 'r']
  else if isPrintable c then [c]
  else if c.toNat < 0x100 then '\\' :: 'x' :: hexDigits 2 c.toNat
  else if c.toNat < 0x10000 then '\\' :: 'u' :: hexDigits 4 c.toNat
  else '\\' :: 'U' :: hexDigits 8 c.toNat

def quoteChars (cs : List Char) : List Char :=
  let mark := quotationMark cs
  mark :: cs.flatMap (escapeChar mark) ++ [mark]

def quote (s : String) : String := String.ofList (quoteChars s.toList)

end TypeAnnotation.Text
