import TypeAnnotation.Text.Blank
import TypeAnnotation.Text.Digit
import TypeAnnotation.Text.Quoted

/-! # Integers as texts

Integers are written in decimal and read in any base up to sixteen. There is a limit to the decimal
digits that are converted either way.
-/
namespace TypeAnnotation.Text

inductive NumeralError
  | illegible (base : Nat) (text : List Char)
  | tooLong (digits : Nat)
  | tooLarge
deriving DecidableEq, Repr

def mostDigits : Nat := 4300

def NumeralError.message (error : NumeralError) : String :=
  let limit :=
    "Exceeds the limit (" ++ toString mostDigits ++ " digits) for integer string conversion"
  let advice := "; use sys.set_int_max_str_digits() to increase the limit"
  match error with
  | illegible base text =>
    "invalid literal for int() with base " ++ toString base ++ ": " ++ quote (String.ofList text)
  | tooLong digits => limit ++ ": value has " ++ toString digits ++ " digits" ++ advice
  | tooLarge => limit ++ advice

def writeInt (n : Int) : Except NumeralError String :=
  if n.natAbs < Nat.pow 10 mostDigits then .ok (toString n) else .error .tooLarge

def splitSign : List Char → Bool × List Char
  | '-' :: rest => (true, rest)
  | '+' :: rest => (false, rest)
  | rest => (false, rest)

def digitIn? (base : Nat) (c : Char) : Option Nat :=
  let value :=
    if 'a' ≤ c && c ≤ 'f' then some (c.toNat - 87)
    else if 'A' ≤ c && c ≤ 'F' then some (c.toNat - 55)
    else digit? c
  value.filter (· < base)

/-- A blank around a number. The information separators are none. -/
def isPadding (c : Char) : Bool := isBlank c && !(28 ≤ c.toNat && c.toNat ≤ 31)

def unpad (text : List Char) : List Char :=
  ((text.dropWhile isPadding).reverse.dropWhile isPadding).reverse

def withoutBase (base : Nat) : List Char → List Char
  | '0' :: letter :: digits =>
    if (base = 2 && (letter == 'b' || letter == 'B')) ||
        (base = 8 && (letter == 'o' || letter == 'O')) ||
        (base = 16 && (letter == 'x' || letter == 'X')) then digits
    else '0' :: letter :: digits
  | digits => digits

def readInt (base : Nat) (text : List Char) : Except NumeralError Int :=
  let (negative, body) := splitSign (unpad text)
  let digits := withoutBase base body
  let row := digits.takeWhile fun c => (digitIn? base c).isSome
  -- Only bases whose digits are not whole bits are limited.
  if base = 10 && mostDigits < row.length then .error (.tooLong row.length)
  else if digits.isEmpty || row.length < digits.length then .error (.illegible base text)
  else
    let size := row.foldl (fun n c => base * n + (digitIn? base c).getD 0) 0
    .ok (if negative then -size else size)

end TypeAnnotation.Text
