import TypeAnnotation.Markup.Color
import TypeAnnotation.Text.Blank
import TypeAnnotation.Text.Lower

/-! # Styles

A style is written as a row of words. Styles with the same effect have the same normal form.
-/
namespace TypeAnnotation.Markup
open Text (lower)

def attributes : List (String × List String) := [
  ("bold", ["b"]), ("dim", ["d"]), ("italic", ["i"]), ("underline", ["u"]), ("blink", []),
  ("blink2", []), ("reverse", ["r"]), ("conceal", ["c"]), ("strike", ["s"]),
  ("underline2", ["uu"]), ("frame", []), ("encircle", []), ("overline", ["o"])]

def attribute? (word : String) : Option String :=
  (attributes.find? fun (name, short) => name == word || short.contains word).map (·.1)

structure Style where
  attributes : List (String × Bool) := []
  color : Option String := none
  background : Option String := none
  link : Option String := none
deriving Repr

namespace Style

/-- The style with one more row of words. The first that cannot be read decides what is wrong. -/
def addWords (style : Style) : List String → Except StyleError Style
  | [] => .ok style
  | [word] => addWord style word
  | word :: next :: rest =>
    match lower word with
    | "on" => do
      checkColor (lower next)
      addWords { style with background := lower next } rest
    | "not" =>
      match attribute? next with
      | some name => addWords { style with attributes := (name, false) :: style.attributes } rest
      | none => .error .unknown
    | "link" => addWords { style with link := next } rest
    | _ => do addWords (← addWord style word) (next :: rest)
where
  /-- The style with a word that stands alone. -/
  addWord (style : Style) (word : String) : Except StyleError Style :=
    match attribute? (lower word) with
    | some name => .ok { style with attributes := (name, true) :: style.attributes }
    | none => do
      checkColor (lower word)
      return { style with color := lower word }

def text (style : Style) : String :=
  let shown := Markup.attributes.filterMap fun (name, _) =>
    (style.attributes.lookup name).map fun on => if on then name else "not " ++ name
  let parts := shown ++ style.color.toList ++ (style.background.map ("on " ++ ·)).toList ++
    (style.link.map ("link " ++ ·)).toList
  if parts.isEmpty then "none" else " ".intercalate parts

def words (text : List Char) : List String :=
  let runs := text.splitBy fun c d => Text.isBlank c == Text.isBlank d
  (runs.filter fun run => !run.any Text.isBlank).map String.ofList

def ofText (text : List Char) : Except StyleError Style :=
  if Text.trim text == "none".toList then .ok {} else ({} : Style).addWords (words text)

/-- The number in a style that cannot be read. A text that is no style does no harm. -/
def fault? (text : String) : Option Text.NumeralError :=
  match ofText text.toList with
  | .error (.numeral error) => some error
  | _ => none

/-- The normal form of what may be a style. A text that is none is put in lower case. -/
def normalForm (text : List Char) : Except Text.NumeralError String :=
  match ofText text with
  | .ok style => .ok style.text
  | .error .unknown => .ok (lower (String.ofList (Text.trim text)))
  | .error (.numeral error) => .error error

end Style

end TypeAnnotation.Markup
