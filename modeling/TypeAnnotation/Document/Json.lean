import TypeAnnotation.Document
import TypeAnnotation.Text.Quoted

/-! # Documents in JSON

One entry a line, indented by two spaces for each level, in ASCII. A character beyond the basic
plane is written as a pair of UTF-16 units.
-/
namespace TypeAnnotation.Document.Json

def unit (n : Nat) : List Char := '\\' :: 'u' :: Text.hexDigits 4 n

def escapeChar (c : Char) : List Char :=
  let n := c.toNat
  if c == '"' || c == '\\' then ['\\', c]
  else if c == '\n' then ['\\', 'n']
  else if c == '\r' then ['\\', 'r']
  else if c == '\t' then ['\\', 't']
  else if n == 0x0c then ['\\', 'f']
  else if n == 0x08 then ['\\', 'b']
  else if 0x20 ≤ n && n < 0x7f then [c]
  else if n < 0x10000 then unit n
  else unit (0xd800 + (n - 0x10000) / 0x400) ++ unit (0xdc00 + (n - 0x10000) % 0x400)

def quote (s : String) : String :=
  "\"" ++ String.ofList (s.toList.flatMap escapeChar) ++ "\""

def newline (level : Nat) : String := "\n" ++ String.ofList (List.replicate (2 * level) ' ')

def block (opening closing : String) (level : Nat) : List String → String
  | [] => opening ++ closing
  | parts =>
    opening ++ newline (level + 1) ++ ("," ++ newline (level + 1)).intercalate parts ++
      newline level ++ closing

mutual

def render (level : Nat) : Document → String
  | .null => "null"
  | .bool b => if b then "true" else "false"
  | .string s => quote s
  | .list items => block "[" "]" level (renderItems (level + 1) items)
  | .mapping entries => block "\x7b" "\x7d" level (renderEntries (level + 1) entries)

def renderItems (level : Nat) : List Document → List String
  | [] => []
  | item :: rest => render level item :: renderItems level rest

def renderEntries (level : Nat) : List (String × Document) → List String
  | [] => []
  | (key, value) :: rest => (quote key ++ ": " ++ render level value) :: renderEntries level rest

end

end Json

def toJson (document : Document) : String := Json.render 0 document

end TypeAnnotation.Document
