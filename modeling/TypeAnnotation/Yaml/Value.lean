import TypeAnnotation.Decimal.Shortest
import TypeAnnotation.Yaml.Timestamp

/-! # YAML values

What a YAML text says, as plain data. A collection that holds itself is cut off where it comes
again.
-/
namespace TypeAnnotation.Yaml

inductive Value
  | null
  | bool (value : Bool)
  | int (value : Int)
  | float (value : Float)
  | string (value : String)
  | bytes (value : List UInt8)
  | timestamp (value : Timestamp)
  | pair (first second : Value)
  | list (items : List Value)
  | mapping (entries : List (Value × Value))
  | set (items : List Value)
  | listAgain
  | mappingAgain
deriving Repr, Inhabited

namespace Value

def escapeByte (mark : Char) (b : UInt8) : List Char :=
  let c := Char.ofNat b.toNat
  if c == mark || c == '\\' then ['\\', c]
  else if c == '\t' then ['\\', 't']
  else if c == '\n' then ['\\', 'n']
  else if c == '\r' then ['\\', 'r']
  else if 0x20 ≤ b && b < 0x7f then [c]
  else '\\' :: 'x' :: Text.hexDigits 2 b.toNat

def displayBytes (bytes : List UInt8) : String :=
  let mark := Text.quotationMark (bytes.map fun b => Char.ofNat b.toNat)
  String.ofList ('b' :: mark :: bytes.flatMap (escapeByte mark) ++ [mark])

mutual

/-- How a report shows a value. An integer with too many digits cannot be shown. -/
def display : Value → Except Text.NumeralError String
  | null => return "None"
  | bool b => return if b then "True" else "False"
  | int n => Text.writeInt n
  | float x => return Decimal.shortestText x
  | string s => return Text.quote s
  | bytes b => return displayBytes b
  | timestamp stamp => return stamp.display
  | pair first second => do return "(" ++ (← first.display) ++ ", " ++ (← second.display) ++ ")"
  | list items => do return "[" ++ ", ".intercalate (← displayAll items) ++ "]"
  | mapping entries => do return "\x7b" ++ ", ".intercalate (← displayEntries entries) ++ "\x7d"
  | set [] => return "set()"
  | set items => do return "\x7b" ++ ", ".intercalate (← displayAll items) ++ "\x7d"
  | listAgain => return "[...]"
  | mappingAgain => return "\x7b...\x7d"

def displayAll : List Value → Except Text.NumeralError (List String)
  | [] => return []
  | v :: rest => do
    let shown ← v.display
    return shown :: (← displayAll rest)

def displayEntries : List (Value × Value) → Except Text.NumeralError (List String)
  | [] => return []
  | (key, value) :: rest => do
    let shown := (← key.display) ++ ": " ++ (← value.display)
    return shown :: (← displayEntries rest)

end

def name : Value → Except Text.NumeralError String
  | string s => return s
  | timestamp stamp => return stamp.text
  | v => v.display

/-- The number of a day. Years begin in March here, so that a leap day ends one. -/
def dayNumber (stamp : Timestamp) : Nat :=
  let (year, month) :=
    if stamp.month ≤ 2 then (stamp.year - 1, stamp.month + 9) else (stamp.year, stamp.month - 3)
  365 * year + year / 4 - year / 100 + year / 400 + (153 * month + 2) / 5 + stamp.day

/-- The seconds and microseconds of universal time, for comparison across time zones. -/
def instant (stamp : Timestamp) (time : TimeOfDay) (zone : Zone) : Int × Nat :=
  let seconds := 86400 * dayNumber stamp + 3600 * time.hour + 60 * time.minute + time.second
  ((seconds : Int) - zone.offset, time.microsecond)

def sameMoment (a b : Timestamp) : Bool :=
  match a.time, b.time with
  | some t, some u =>
    match t.zone, u.zone with
    | some z, some w => instant a t z == instant b u w
    | _, _ => a = b
  | _, _ => a = b

def integer? : Value → Option Int
  | bool b => some (if b then 1 else 0)
  | int n => some n
  | float x => (Decimal.Double.ofFloat? x).bind (·.integer?)
  | _ => none

/-- Whether two keys of a mapping are the same key. Numbers and truth values are compared by
size. -/
def sameKey : Value → Value → Bool
  | null, null => true
  | string a, string b => a = b
  | bytes a, bytes b => a = b
  | timestamp a, timestamp b => sameMoment a b
  | float a, float b => a == b || (a.isNaN && b.isNaN)
  | a, b => a.integer?.isSome && a.integer? = b.integer?

def insert (key value : Value) : List (Value × Value) → List (Value × Value)
  | [] => [(key, value)]
  | (k, v) :: rest =>
    if sameKey k key then (k, value) :: rest else (k, v) :: insert key value rest

end Value

end TypeAnnotation.Yaml
