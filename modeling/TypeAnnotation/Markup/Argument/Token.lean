/-! # Tokens of arguments

What the expression in a handler tag is made of, and how its row of tokens can end.
-/
namespace TypeAnnotation.Markup.Argument

/-- How a quoted text is to be read: its backslashes as they stand, as bytes, or with expressions
between braces. -/
structure Quoting where
  verbatim : Bool := false
  bytes : Bool := false
  formatted : Bool := false
deriving DecidableEq, Repr

/-- Keywords and operators are words. A stray is a character that no expression holds. -/
inductive Token.Kind
  | name
  | word
  | number
  | quoted (quoting : Quoting)
  | newline
  | indent
  | dedent
  | stray
  | finish
deriving DecidableEq, Repr

/-- A token with the line where it begins and the number of brackets that are open behind it. For a
quoted text only what stands between the marks is kept. -/
structure Token where
  kind : Token.Kind
  text : String
  line : Nat
  depth : Nat
deriving DecidableEq, Repr

structure Bracket where
  char : Char
  line : Nat
deriving DecidableEq, Repr

/-- Why there are no more tokens: the text is at its end, or it cannot be divided. The second kind
of refusal gives way to others that are found before it. -/
inductive Stop
  | finished
  | refused (message : String)
  | stuck (message : String) (innermost : Option Bracket)
deriving DecidableEq, Repr

def Bracket.unclosed (b : Bracket) : String := "'" ++ b.char.toString ++ "' was never closed"

structure Scan where
  tokens : Array Token
  stop : Stop
  full : Bool := false
deriving Repr

def keywords : List String := [
  "False", "None", "True", "and", "as", "assert", "async", "await", "break", "class", "continue",
  "def", "del", "elif", "else", "except", "finally", "for", "from", "global", "if", "import",
  "in", "is", "lambda", "nonlocal", "not", "or", "pass", "raise", "return", "try", "while", "with",
  "yield"]

def softKeywords : List String := ["_", "c", "ca", "cas", "case", "m", "ma", "mat", "matc", "match"]

def operators : List String := [
  "**=", "//=", "<<=", ">>=", "...", "!=", "%=", "&=", "**", "*=", "+=", "-=", "->", "//", "/=",
  ":=", "<<", "<=", "<>", "==", ">=", ">>", "@=", "^=", "|=", "%", "&", "(", ")", "*", "+", ",",
  "-", ".", "/", ":", ";", "<", "=", ">", "@", "[", "]", "^", "\x7b", "|", "\x7d", "~"]

end TypeAnnotation.Markup.Argument
