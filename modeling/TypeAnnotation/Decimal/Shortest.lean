import TypeAnnotation.Decimal.Double

/-! # Shortest decimals

A double is written with the fewest decimal digits that read back as the same double, and among
those with the digits nearest to it. The search is exact: a finite double is a multiple of a power
of two, and so are the ends of the interval of numbers that round to it.
-/
namespace TypeAnnotation

/-- A decimal number, `digits * 10 ^ exponent`. -/
structure Decimal where
  digits : Nat
  exponent : Int
deriving DecidableEq, Repr

namespace Decimal

/-- A positive number `value / scale` and the interval from `low / scale` to `high / scale` around
it, which holds its ends if `closed`. -/
structure Interval where
  value : Nat
  low : Nat
  high : Nat
  scale : Nat
  closed : Bool
deriving Repr

/-- The numbers that round to `significand * 2 ^ exponent`. Below a power of two the next double is
only half as far away, unless the exponent is the least one. -/
def Interval.ofBinary (significand : Nat) (exponent : Int) (least : Bool) : Interval :=
  let below := if significand = Nat.pow 2 52 && !least then 1 else 2
  let unit := Nat.pow 2 (exponent - 2).toNat
  { value := 4 * significand * unit
    low := (4 * significand - below) * unit
    high := (4 * significand + 2) * unit
    scale := Nat.pow 2 (2 - exponent).toNat
    closed := significand % 2 = 0 }

/-- The least `k` from `start` on with `value < scale * 10 ^ k`, sought for so many steps. -/
def magnitudeFrom (value scale : Nat) : Nat → Int → Int
  | 0, k => k
  | fuel + 1, k =>
    if value * Nat.pow 10 (-k).toNat < scale * Nat.pow 10 k.toNat then k
    else magnitudeFrom value scale fuel (k + 1)

/-- The number of digits before the decimal point, negative for zeros after it. -/
def magnitude (value scale : Nat) : Int := magnitudeFrom value scale 700 (-330)

namespace Interval

def holds (i : Interval) (d : Decimal) : Bool :=
  let x := d.digits * i.scale * Nat.pow 10 d.exponent.toNat
  let y := Nat.pow 10 (-d.exponent).toNat
  if i.closed then i.low * y ≤ x && x ≤ i.high * y else i.low * y < x && x < i.high * y

def neighbours (i : Interval) (exponent : Int) : Decimal × Decimal :=
  let below := i.value * Nat.pow 10 (-exponent).toNat / (i.scale * Nat.pow 10 exponent.toNat)
  (⟨below, exponent⟩, ⟨below + 1, exponent⟩)

/-- Whether the value is nearer to the upper neighbour, or as near to both and that one is even. -/
def roundsUp (i : Interval) (below : Decimal) : Bool :=
  let x := 2 * i.value * Nat.pow 10 (-below.exponent).toNat
  let middle := (2 * below.digits + 1) * i.scale * Nat.pow 10 below.exponent.toNat
  middle < x || (middle = x && below.digits % 2 = 1)

def search (i : Interval) (magnitude : Int) : Nat → Nat → Decimal
  | 0, count => (i.neighbours (magnitude - count)).1
  | fuel + 1, count =>
    let (below, above) := i.neighbours (magnitude - count)
    match i.holds below, i.holds above with
    | true, true => if i.roundsUp below then above else below
    | true, false => below
    | false, true => above
    | false, false => search i magnitude fuel (count + 1)

def shortest (i : Interval) : Decimal := i.search (magnitude i.value i.scale) 17 1

end Interval

/-- The decimal without zeros at the end of its digits, of which there are at most so many. -/
def trim : Nat → Decimal → Decimal
  | 0, d => d
  | fuel + 1, d =>
    if d.digits % 10 = 0 && d.digits ≠ 0 then trim fuel ⟨d.digits / 10, d.exponent + 1⟩ else d

/-- The text of a decimal: positional from `10 ^ -4` up to `10 ^ 16`, with a digit after the
point, and otherwise with an exponent of two digits or more and its sign. -/
def text (d : Decimal) : List Char :=
  let digits := (toString d.digits).toList
  let point : Int := digits.length + d.exponent
  if point ≤ -4 || 16 < point then
    let fraction := match digits.drop 1 with
      | [] => []
      | rest => '.' :: rest
    let exponent := point - 1
    let size := (toString exponent.natAbs).toList
    digits.take 1 ++ fraction ++ 'e' :: (if exponent < 0 then '-' else '+') ::
      (if size.length < 2 then '0' :: size else size)
  else if point ≤ 0 then
    '0' :: '.' :: List.replicate (-point).toNat '0' ++ digits
  else
    let whole := digits.take point.toNat
    let zeros := List.replicate (point.toNat - digits.length) '0'
    let fraction := digits.drop point.toNat
    whole ++ zeros ++ '.' :: (if fraction.isEmpty then ['0'] else fraction)

def shortestText (x : Float) : String :=
  let sign := if x.toBits.toNat / Nat.pow 2 63 = 1 then "-" else ""
  match Double.ofFloat? x with
  | none => if x.isNaN then "nan" else sign ++ "inf"
  | some d =>
    if d.significand = 0 then sign ++ "0.0"
    else
      let least := d.exponent = Double.leastExponent
      let interval := Interval.ofBinary d.significand d.exponent least
      sign ++ String.ofList (interval.shortest.trim 20).text

end Decimal

end TypeAnnotation
