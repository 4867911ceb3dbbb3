import TypeAnnotation.Yaml.Token.Scalar

/-! # Reading properties and directives

Aliases, anchors, tags and the directives that stand before a document.
-/
namespace TypeAnnotation.Yaml.Read

def wordExpected : String := "expected alphabetic or numeric character"

def word (context : String × Mark) (endsWord : Char → Bool) : Read String := do
  let name ← run isWordChar
  if name.isEmpty then failFound context wordExpected (← peek)
  forward name.length
  let c ← peek
  if !endsWord c then failFound context wordExpected c
  return String.ofList name

def reference (title : String) (content : String → Content) : Read Unit := do
  let start ← mark
  forward 1
  let name ← word ("while scanning an " ++ title, start) fun c =>
    isGapOrEnd c || ['?', ':', ',', ']', '\x7d', '%', '@', '\x60'].contains c
  emit (content name) start (← mark)

def uriBytes (context : String × Mark) : Read (List UInt8) :=
  loop (fun found => do
    if (← peek) != '%' then return .inr found
    forward 1
    let digits := (← run isHexDigit).take 2
    if digits.length < 2 then
      failFound context "expected URI escape sequence of 2 hexadecimal numbers"
        (← peekAt digits.length)
    forward 2
    return .inl (found ++ [UInt8.ofNat (hexValue digits)])) []

def uriEscapes (context : String × Mark) : Read (List Char) := do
  let start ← mark
  match String.fromUTF8? (ByteArray.mk (← uriBytes context).toArray) with
  | some text => return text.toList
  | none => throw (.problem (some context) "the escaped bytes are not UTF-8" start)

def isUriChar (c : Char) : Bool :=
  c.isAlphanum || "-;/?:@&=+$,_.!~*'()[]".toList.contains c

def uri (title : String) (start : Mark) : Read String := do
  let text ← loop (fun found => do
    let plain ← take isUriChar
    let found := found ++ plain
    if (← peek) == '%' then
      return .inl (found ++ (← uriEscapes ("while scanning a " ++ title, start)))
    else return .inr found) []
  if text.isEmpty then failFound ("while parsing a " ++ title, start) "expected URI" (← peek)
  return String.ofList text

def handle (title : String) (start : Mark) : Read String := do
  let context := ("while scanning a " ++ title, start)
  let c ← peek
  if c != '!' then failFound context "expected '!'" c
  if (← peekAt 1) == ' ' then
    forward 1
    return "!"
  let name := (← get).ahead.tail.takeWhile isWordChar
  let c ← peekAt (name.length + 1)
  if c != '!' then
    forward (name.length + 1)
    failFound context "expected '!'" c
  forward (name.length + 2)
  return String.ofList ('!' :: name ++ ['!'])

def hasHandle : List Char → Bool
  | [] => false
  | c :: rest => if isSpaceOrEnd c then false else c == '!' || hasHandle rest

def tag : Read Unit := do
  let start ← mark
  let next ← peekAt 1
  let (owner, suffix) ←
    if next == '<' then do
      forward 2
      let suffix ← uri "tag" start
      let c ← peek
      if c != '>' then failFound ("while parsing a tag", start) "expected '>'" c
      forward 1
      pure (none, suffix)
    else if isGapOrEnd next then do
      forward 1
      pure (none, "!")
    else if hasHandle (← get).ahead.tail then do
      let owner ← handle "tag" start
      pure (some owner, ← uri "tag" start)
    else do
      forward 1
      pure (some "!", ← uri "tag" start)
  let c ← peek
  if !isSpaceOrEnd c then failFound ("while scanning a tag", start) "expected ' '" c
  emit (.tag owner suffix) start (← mark)

def versionNumber (context : String × Mark) : Read Nat := do
  let digits ← run Char.isDigit
  if digits.isEmpty then failFound context "expected a digit" (← peek)
  match Text.readInt 10 digits with
  | .error error => throw (.faulty (.numeral error))
  | .ok number =>
    forward digits.length
    return number.toNat

def directive : Read Unit := do
  let start ← mark
  let context := ("while scanning a directive", start)
  forward 1
  let name ← word context isSpaceOrEnd
  let content ← match name with
    | "YAML" => do
      let _ ← take (· == ' ')
      let major ← versionNumber context
      let c ← peek
      if c != '.' then failFound context "expected a digit or '.'" c
      forward 1
      let minor ← versionNumber context
      let c ← peek
      if !isSpaceOrEnd c then failFound context "expected a digit or ' '" c
      pure (Content.version major minor)
    | "TAG" => do
      let _ ← take (· == ' ')
      let owner ← handle "directive" start
      let c ← peek
      if c != ' ' then failFound context "expected ' '" c
      let _ ← take (· == ' ')
      let expansion ← uri "directive" start
      let c ← peek
      if !isSpaceOrEnd c then failFound context "expected ' '" c
      pure (Content.tagHandle owner expansion)
    | _ => do
      let _ ← take fun c => !isBreakOrEnd c
      pure (Content.reserved name)
  let stop ← mark
  restOfLine context
  emit content start stop

end TypeAnnotation.Yaml.Read
