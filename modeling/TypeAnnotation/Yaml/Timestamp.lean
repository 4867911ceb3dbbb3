import TypeAnnotation.Yaml.Number

/-! # Timestamps in YAML

A date, or a date with a time of day, which may have a time zone.
-/
namespace TypeAnnotation.Yaml

structure Zone where
  offset : Int
deriving DecidableEq, Repr

structure TimeOfDay where
  hour : Nat
  minute : Nat
  second : Nat
  microsecond : Nat
  zone : Option Zone
deriving DecidableEq, Repr

structure Timestamp where
  year : Nat
  month : Nat
  day : Nat
  time : Option TimeOfDay
deriving DecidableEq, Repr

namespace Timestamp

def number? (least most : Nat) (text : List Char) : Option (Nat × List Char) :=
  let digits := (text.takeWhile Char.isDigit).take most
  if least ≤ digits.length then some (Number.natOf 10 digits, text.drop digits.length) else none

def skip? (c : Char) : List Char → Option (List Char)
  | d :: rest => if c = d then some rest else none
  | [] => none

def skipBlanks (text : List Char) : List Char := text.dropWhile fun c => c == ' ' || c == '\t'

def zone? (text : List Char) : Option (Option Zone) := do
  match skipBlanks text with
  | [] => if text.isEmpty then some none else none
  | ['Z'] => some (some ⟨0⟩)
  | sign :: rest =>
    if sign != '+' && sign != '-' then none
    let (hours, rest) ← number? 1 2 rest
    let minutes ← match rest with
      | [] => some 0
      | ':' :: rest => do
        let (minutes, rest) ← number? 2 2 rest
        if rest.isEmpty then some minutes else none
      | _ => none
    let size : Int := 3600 * hours + 60 * minutes
    return some ⟨if sign = '-' then -size else size⟩

def microseconds (digits : List Char) : Nat :=
  let kept := digits.take 6
  Number.natOf 10 (kept ++ List.replicate (6 - kept.length) '0')

def time? (text : List Char) : Option TimeOfDay := do
  let (hour, rest) ← number? 1 2 text
  let (minute, rest) ← number? 2 2 (← skip? ':' rest)
  let (second, rest) ← number? 2 2 (← skip? ':' rest)
  let (fraction, rest) := match rest with
    | '.' :: rest => (rest.takeWhile Char.isDigit, rest.dropWhile Char.isDigit)
    | _ => ([], rest)
  return ⟨hour, minute, second, microseconds fraction, ← zone? rest⟩

def ofText? (text : List Char) : Option Timestamp := do
  let (year, rest) ← number? 4 4 text
  let (month, rest) ← number? 1 2 (← skip? '-' rest)
  let (day, rest) ← number? 1 2 (← skip? '-' rest)
  match rest with
  | [] => some ⟨year, month, day, none⟩
  | c :: rest =>
    if c == 'T' || c == 't' then return ⟨year, month, day, some (← time? rest)⟩
    else if c == ' ' || c == '\t' then
      return ⟨year, month, day, some (← time? (skipBlanks rest))⟩
    else none

/-- Whether a plain text is a timestamp. A date alone has two digits for month and day. -/
def isTimestamp (text : List Char) : Bool :=
  match ofText? text with
  | none => false
  | some stamp => stamp.time.isSome || text.length == 10

def padded (width n : Nat) : String :=
  let digits := toString n
  String.ofList (List.replicate (width - digits.length) '0') ++ digits

def Zone.text (zone : Zone) : String :=
  let size := zone.offset.natAbs
  (if zone.offset < 0 then "-" else "+") ++ padded 2 (size / 3600) ++ ":" ++
    padded 2 (size / 60 % 60)

def text (stamp : Timestamp) : String :=
  let date := padded 4 stamp.year ++ "-" ++ padded 2 stamp.month ++ "-" ++ padded 2 stamp.day
  match stamp.time with
  | none => date
  | some time =>
    let fraction := if time.microsecond = 0 then "" else "." ++ padded 6 time.microsecond
    let zone := match time.zone with
      | none => ""
      | some zone => Zone.text zone
    date ++ " " ++ padded 2 time.hour ++ ":" ++ padded 2 time.minute ++ ":" ++
      padded 2 time.second ++ fraction ++ zone

/-- The distance from universal time: a negative one as whole days back and seconds forward. -/
def Zone.distance (zone : Zone) : String :=
  let seconds := zone.offset % 86400
  let days := zone.offset / 86400
  let before := if days = 0 then "" else "days=" ++ toString days
  let after := if seconds = 0 then "" else "seconds=" ++ toString seconds
  let between := if days = 0 || seconds = 0 then "" else ", "
  "datetime.timedelta(" ++ before ++ between ++ after ++ ")"

def Zone.display (zone : Zone) : String :=
  if zone.offset = 0 then "datetime.timezone.utc" else "datetime.timezone(" ++ Zone.distance zone ++ ")"

def display (stamp : Timestamp) : String :=
  let date := [stamp.year, stamp.month, stamp.day].map toString
  match stamp.time with
  | none => "datetime.date(" ++ ", ".intercalate date ++ ")"
  | some time =>
    let clock := [time.hour, time.minute] ++
      (if time.second = 0 && time.microsecond = 0 then [] else [time.second]) ++
      (if time.microsecond = 0 then [] else [time.microsecond])
    let zone := match time.zone with
      | none => []
      | some zone => ["tzinfo=" ++ Zone.display zone]
    "datetime.datetime(" ++ ", ".intercalate (date ++ clock.map toString ++ zone) ++ ")"

def daysIn (year month : Nat) : Nat :=
  match month with
  | 2 => if year % 4 = 0 && (year % 100 ≠ 0 || year % 400 = 0) then 29 else 28
  | 4 | 6 | 9 | 11 => 30
  | _ => 31

def fault? (stamp : Timestamp) : Option Fault :=
  let clock := stamp.time.getD ⟨0, 0, 0, 0, none⟩
  let zone := clock.zone.getD ⟨0⟩
  if 86400 ≤ zone.offset.natAbs then some (.zone (Zone.distance zone))
  else if stamp.year = 0 then some .year
  else if stamp.month = 0 || 12 < stamp.month then some .month
  else if stamp.day = 0 || daysIn stamp.year stamp.month < stamp.day then some .day
  else if 23 < clock.hour then some .hour
  else if 59 < clock.minute then some .minute
  else if 59 < clock.second then some .second
  else none

/-- The timestamp that a text with the tag of one is. A line feed may end it. -/
def read (text : List Char) : Except Fault Timestamp :=
  match ofText? (if text.getLast? = some '\n' then text.dropLast else text) with
  | none => .error .noTimestamp
  | some stamp =>
    match stamp.fault? with
    | some fault => .error fault
    | none => .ok stamp

end Timestamp

end TypeAnnotation.Yaml
