import TypeAnnotation.Layout.Wrap
import TypeAnnotation.Markup.Emoji
import TypeAnnotation.Markup.Handler
import TypeAnnotation.Markup.Style

/-! # Markup

Text for a terminal in which tags between square brackets turn styles on and off. A tag begins
with a small letter or one of `#`, `/` and `@`; a backslash in front makes it plain text. Only the
text without its tags is kept here, and where the styles are that were turned on, with a check that
every closing tag closes something and that the handlers it closes make sense.
-/
namespace TypeAnnotation.Markup

/-- A closing tag that closes nothing, and where it stands, one that closes a handler that makes no
sense, or a number in a style that cannot be read. A tag without a name closes any. -/
inductive Error
  | unmatched (tag : String) (position : Nat)
  | handler (error : HandlerError)
  | numeral (error : Text.NumeralError)
deriving DecidableEq, Repr

def Error.message : Error → String
  | unmatched tag position =>
    "closing tag '" ++ tag ++ "' at position " ++ toString position ++
      (if tag = "[/]" then " has nothing to close" else " doesn't match any open tag")
  | handler error => error.message
  | numeral error => error.message

/-- A run of plain text, a text that is kept apart from others, or a tag with the place that a
message gives it. -/
inductive Piece
  | text (chars : List Char)
  | apart (chars : List Char)
  | tag (position : Nat) (body : List Char)
deriving DecidableEq, Repr

def startsTag (c : Char) : Bool := ('a' ≤ c && c ≤ 'z') || c == '#' || c == '/' || c == '@'

def tagBody? : List Char → Option (List Char)
  | first :: rest =>
    let body := rest.takeWhile fun c => c != '[' && c != ']'
    if startsTag first && (rest.drop body.length).head? == some ']' then some (first :: body)
    else none
  | [] => none

/-- The number of backslashes here and the body of the tag behind them. -/
def tagAt? (text : List Char) : Option (Nat × List Char) :=
  let slashes := text.takeWhile (· == '\\')
  match text.drop slashes.length with
  | '[' :: inner => (tagBody? inner).map fun body => (slashes.length, body)
  | _ => none

/-- What a tag and the backslashes before it are. Two backslashes stand for one; an odd one makes
the tag plain text. -/
def tagPieces (position slashes : Nat) (body : List Char) : List Piece :=
  let literal := List.replicate (slashes / 2) '\\'
  (if literal.isEmpty then [] else [.apart literal]) ++
    [if slashes % 2 = 1 then .apart ('[' :: body ++ [']'])
      else .tag (position + 2 * (slashes / 2)) body]

def consChar (c : Char) : List Piece → List Piece
  | .text chars :: rest => .text (c :: chars) :: rest
  | pieces => .text [c] :: pieces

/-- The pieces of a text whose first character stands at `position`, after skipping some. -/
def piecesFrom (position skip : Nat) : List Char → List Piece
  | [] => []
  | c :: rest =>
    if skip = 0 then
      match tagAt? (c :: rest) with
      | some (slashes, body) =>
        tagPieces position slashes body ++
          piecesFrom (position + 1) (slashes + body.length + 1) rest
      | none => consChar c (piecesFrom (position + 1) 0 rest)
    else piecesFrom (position + 1) (skip - 1) rest

def pieces (text : String) : List Piece := piecesFrom 0 0 text.toList

def unescape : List Char → List Char
  | '\\' :: '[' :: rest => '[' :: unescape rest
  | c :: rest => c :: unescape rest
  | [] => []

def emojiVariant (code : List Char) : List Char × List Char :=
  if "-emoji".toList.isSuffixOf code then (code.take (code.length - 6), ['\ufe0f'])
  else if "-text".toList.isSuffixOf code then (code.take (code.length - 5), ['\ufe0e'])
  else (code, [])

def picture? (code : List Char) : Option (List Char) :=
  let (name, variant) := emojiVariant code
  (emoji? (Text.lower (String.ofList name))).map (· ++ variant)

def emojiCode? (rest : List Char) : Option (List Char) :=
  let code := rest.takeWhile fun c => c != ':' && !Text.isBlank c
  if (rest.drop code.length).head? == some ':' then some code else none

def replaceEmoji (skip : Nat) : List Char → List Char
  | [] => []
  | c :: rest =>
    if skip = 0 then
      if c == ':' then
        match emojiCode? rest with
        | some code =>
          (picture? code).getD (':' :: code ++ [':']) ++ replaceEmoji (code.length + 1) rest
        | none => c :: replaceEmoji 0 rest
      else c :: replaceEmoji 0 rest
    else replaceEmoji (skip - 1) rest

/-- A tag that is open: the normal form of its name, and what stands behind an equals sign. -/
structure OpenTag where
  name : String
  value : String
deriving DecidableEq, Repr

def tagName (body : List Char) : List Char := body.takeWhile (· != '=')

def OpenTag.ofBody (body : List Char) : Except Error OpenTag := do
  let name ← (Style.normalForm (tagName body)).mapError .numeral
  return ⟨name, String.ofList ((body.drop (tagName body).length).drop 1)⟩

def OpenTag.error? (t : OpenTag) : Option HandlerError :=
  if t.name.startsWith "@" && !t.value.isEmpty then handlerError? t.value else none

/-- The style that the tag turns on. Its value is read as more words. -/
def OpenTag.style (t : OpenTag) : String :=
  if t.value = "" then t.name else t.name ++ " " ++ t.value

def close? {α : Type} (nameOf : α → String) (name : List Char) (opened : List α) :
    Except Error (Option (α × List α)) :=
  if name.isEmpty then
    match opened with
    | [] => .ok none
    | tag :: rest => .ok (some (tag, rest))
  else do
    let name ← (Style.normalForm name).mapError .numeral
    return (opened.find? (nameOf · = name)).map fun tag => (tag, opened.eraseP (nameOf · = name))

structure Span where
  start : Nat
  stop : Nat
  style : String
deriving DecidableEq, Repr

structure Rendered where
  text : List Char := []
  spans : List Span := []
deriving DecidableEq, Repr

def Rendered.behind (text : List Char) (r : Rendered) : Rendered := { r with text := text ++ r.text }

/-- What pieces are shown as, given how much stands before them and the tags that are open, with the
places where they were opened. -/
def render (done : Nat) (opened : List (Nat × OpenTag)) : List Piece → Except Error Rendered
  | [] => .ok { spans := opened.map fun (start, tag) => ⟨start, done, tag.style⟩ }
  | .text chars :: rest => do
    let shown := Layout.withoutControls (replaceEmoji 0 (unescape chars))
    return (← render (done + shown.length) opened rest).behind shown
  | .apart chars :: rest => do
    let shown := Layout.withoutControls (replaceEmoji 0 chars)
    return (← render (done + shown.length) opened rest).behind shown
  | .tag position body :: rest =>
    match tagName body with
    | '/' :: name => do
      let name := Text.trim name
      match ← close? (·.2.name) name opened with
      | some ((start, tag), opened) =>
        match tag.error? with
        | some error => .error (.handler error)
        | none =>
          let r ← render done opened rest
          return { r with spans := ⟨start, done, tag.style⟩ :: r.spans }
      | none =>
        let shown := if name.isEmpty then "[/]" else String.ofList ('[' :: body ++ [']'])
        .error (.unmatched shown position)
    | _ => do render done ((done, ← OpenTag.ofBody body) :: opened) rest

/-- What a markup is shown as. -/
def plain (markup : String) : Except Error Rendered := render 0 [] (pieces markup)

/-- The first number that cannot be read in the styles of a text. Once the text is divided, styles
of nothing but line feeds are lost. -/
def Rendered.fault? (divided : Bool) (r : Rendered) : Option Text.NumeralError :=
  let seen (s : Span) : Bool :=
    !divided || ((r.text.drop s.start).take (s.stop - s.start)).any (· != '\n')
  let spans := (r.spans.filter seen).reverse.mergeSort fun s t => s.start ≤ t.start
  spans.findSome? fun s => Style.fault? s.style

end TypeAnnotation.Markup
