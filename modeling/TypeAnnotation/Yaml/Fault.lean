import TypeAnnotation.Text.Numeral

/-! # Faults in scalars

A scalar may have a text that its type can do nothing with. That is no error of YAML, and nothing
reports it.
-/
namespace TypeAnnotation.Yaml

inductive Fault
  | numeral (error : Text.NumeralError)
  | noNumber (text : List Char)
  | tooLarge
  | noText
  | noTruthValue (word : String)
  | noTimestamp
  | notScalar
  | noCharacter (code : Nat)
  | year
  | month
  | day
  | hour
  | minute
  | second
  | zone (distance : String)
deriving DecidableEq, Repr, Inhabited

namespace Fault

def title : Fault → String
  | noText => "IndexError"
  | noTruthValue _ => "KeyError"
  | noTimestamp => "AttributeError"
  | notScalar => "TypeError"
  | tooLarge => "OverflowError"
  | noCharacter code => if code < 0x80000000 then "ValueError" else "OverflowError"
  | numeral _ | noNumber _ | year | month | day | hour | minute | second | zone _ => "ValueError"

def message : Fault → String
  | numeral error => error.message
  | noNumber text => "could not convert string to float: " ++ Text.quote (String.ofList text)
  | tooLarge => "int too large to convert to float"
  | noText => "string index out of range"
  | noTruthValue word => Text.quote word
  | noTimestamp => "'NoneType' object has no attribute 'groupdict'"
  | notScalar => "expected string or bytes-like object, got 'list'"
  | noCharacter code =>
    if code < 0x80000000 then "chr() arg not in range(0x110000)"
    else "Python int too large to convert to C int"
  | year => "year 0 is out of range"
  | month => "month must be in 1..12"
  | day => "day is out of range for month"
  | hour => "hour must be in 0..23"
  | minute => "minute must be in 0..59"
  | second => "second must be in 0..59"
  | zone distance =>
    "offset must be a timedelta strictly between -timedelta(hours=24) and timedelta(hours=24), " ++
      "not " ++ distance ++ "."

end Fault

end TypeAnnotation.Yaml
