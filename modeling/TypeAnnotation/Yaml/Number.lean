import TypeAnnotation.Text.Lower
import TypeAnnotation.Yaml.Token.Scalar

/-! # Numbers in YAML

Integers in four bases and in groups of sixty, and floating-point numbers. Underscores may stand
between the digits. A text with the tag of a number may be none.
-/
namespace TypeAnnotation.Yaml.Number
open Text (splitSign)

def parts : List Char → List (List Char)
  | [] => [[]]
  | ':' :: rest => [] :: parts rest
  | c :: rest =>
    match parts rest with
    | [] => [[c]]
    | first :: more => (c :: first) :: more

def isDigitOrGap (c : Char) : Bool := c.isDigit || c == '_'

def isDigits : List Char → Bool
  | c :: rest => c.isDigit && rest.all isDigitOrGap
  | [] => false

def isSixtieth : List Char → Bool
  | [c] => c.isDigit
  | [c, d] => '0' ≤ c && c ≤ '5' && d.isDigit
  | _ => false

def isInt (text : List Char) : Bool :=
  match (splitSign text).2 with
  | '0' :: 'b' :: digits =>
    !digits.isEmpty && digits.all fun c => c == '0' || c == '1' || c == '_'
  | '0' :: 'x' :: digits => !digits.isEmpty && digits.all fun c => Read.isHexDigit c || c == '_'
  | '0' :: digits => digits.all fun c => ('0' ≤ c && c ≤ '7') || c == '_'
  | body =>
    match parts body with
    | first :: groups => isDigits first && groups.all isSixtieth
    | [] => false

def isExponent : List Char → Bool
  | [] => true
  | e :: sign :: digits =>
    (e == 'e' || e == 'E') && (sign == '-' || sign == '+') && !digits.isEmpty &&
      digits.all Char.isDigit
  | _ => false

def splitPoint (text : List Char) : Option (List Char × List Char) :=
  match text.dropWhile (· != '.') with
  | _ :: fraction => some (text.takeWhile (· != '.'), fraction)
  | [] => none

def isFloat (text : List Char) : Bool :=
  let body := (splitSign text).2
  let signed := body.length != text.length
  match splitPoint body with
  | none => false
  | some ([], fraction) =>
    ["inf", "Inf", "INF"].contains (String.ofList fraction) ||
      (!signed && ["nan", "NaN", "NAN"].contains (String.ofList fraction)) ||
      (!signed && isDigits (fraction.takeWhile isDigitOrGap) &&
        isExponent (fraction.dropWhile isDigitOrGap))
  | some (whole, fraction) =>
    match parts whole with
    | [only] => isDigits only && isExponent (fraction.dropWhile isDigitOrGap)
    | first :: groups =>
      isDigits first && groups.all isSixtieth && fraction.all isDigitOrGap
    | [] => false

def natOf (base : Nat) (digits : List Char) : Nat :=
  digits.foldl (fun n c => base * n + (Text.digitIn? base c).getD 0) 0

def readInt (text : List Char) : Except Fault Int := do
  let numeral (base : Nat) (digits : List Char) : Except Fault Int :=
    (Text.readInt base digits).mapError .numeral
  let (negative, body) := splitSign (text.filter (· != '_'))
  let size ← match body with
    | [] => throw .noText
    | '0' :: 'b' :: digits => numeral 2 digits
    | '0' :: 'x' :: digits => numeral 16 digits
    | '0' :: _ => numeral 8 body
    | _ => (parts body).foldlM (fun n part => return 60 * n + (← numeral 10 part)) 0
  return if negative then -size else size

def decimalValue (text : List Char) : Float :=
  let mantissa := text.takeWhile (· != 'e')
  let exponent := text.drop (mantissa.length + 1)
  let (whole, fraction) := (splitPoint mantissa).getD (mantissa, [])
  let digits := natOf 10 (whole ++ fraction)
  let (down, power) := splitSign exponent
  let shift : Int := (if down then -(natOf 10 power) else natOf 10 power : Int) - fraction.length
  if digits = 0 then 0
  else if 400 < shift then 1 / 0
  else if shift < -400 - text.length then 0
  else Float.ofScientific digits (shift < 0) shift.natAbs

def isDecimal (text : List Char) : Bool :=
  let mantissa := text.takeWhile (· != 'e')
  let (whole, fraction) := (splitPoint mantissa).getD (mantissa, [])
  let areDigits (digits : List Char) : Bool := digits.all fun c => (Text.digit? c).isSome
  areDigits (whole ++ fraction) && !(whole ++ fraction).isEmpty &&
    match text.drop mantissa.length with
    | [] => true
    | _ :: exponent => areDigits (splitSign exponent).2 && !(splitSign exponent).2.isEmpty

def readDecimal (text : List Char) : Except Fault Float :=
  let (negative, body) := splitSign (Text.unpad text)
  let size : Option Float :=
    if ["inf", "infinity"].contains (String.ofList body) then some (1 / 0)
    else if body = "nan".toList then some (0 / 0)
    else if isDecimal body then some (decimalValue body)
    else none
  match size with
  | some size => .ok (if negative then -size else size)
  | none => .error (.noNumber text)

def readFloat (text : List Char) : Except Fault Float := do
  let value := (Text.lower (String.ofList (text.filter (· != '_')))).toList
  if value.isEmpty then throw .noText
  let (negative, body) := splitSign value
  let size ←
    if body = ".inf".toList then pure (1 / 0)
    else if body = ".nan".toList then pure (0 / 0)
    else match parts body with
      | [only] => readDecimal only
      | groups => do
        let sizes ← groups.mapM readDecimal
        -- The weight of the first of these groups is beyond the range of a double.
        if 174 < sizes.length then throw .tooLarge
        pure (sizes.reverse.zipIdx.foldl (fun sum (size, place) =>
          sum + size * Float.ofNat (Nat.pow 60 place)) 0)
  return if negative then -size else size

end TypeAnnotation.Yaml.Number
