/-! # Base 64

Bytes in groups of six bits, one letter each. Characters outside the alphabet are skipped.
-/
namespace TypeAnnotation.Text.Base64

inductive Problem
  | lonely (count : Nat)
  | padding
deriving DecidableEq, Repr

def Problem.message : Problem → String
  | lonely count =>
    "Invalid base64-encoded string: number of data characters (" ++ toString count ++
      ") cannot be 1 more than a multiple of 4"
  | padding => "Incorrect padding"

def letter? (c : Char) : Option Nat :=
  if 'A' ≤ c && c ≤ 'Z' then some (c.toNat - 'A'.toNat)
  else if 'a' ≤ c && c ≤ 'z' then some (c.toNat - 'a'.toNat + 26)
  else if c.isDigit then some (c.toNat - '0'.toNat + 52)
  else if c == '+' then some 62
  else if c == '/' then some 63
  else none

def letters (found : List Nat) (pads : Nat) : List Char → List Nat × Bool
  | [] => (found.reverse, false)
  | c :: rest =>
    if c == '=' then
      let place := found.length % 4
      if 2 ≤ place && 4 ≤ place + pads + 1 then (found.reverse, true)
      else letters found (if 2 ≤ place then pads + 1 else pads) rest
    else match letter? c with
      | some n => letters (n :: found) 0 rest
      | none => letters found pads rest

def bytes : List Nat → List UInt8
  | a :: b :: c :: d :: rest =>
    UInt8.ofNat (a * 4 + b / 16) :: UInt8.ofNat (b % 16 * 16 + c / 4) ::
      UInt8.ofNat (c % 4 * 64 + d) :: bytes rest
  | [a, b, c] => [UInt8.ofNat (a * 4 + b / 16), UInt8.ofNat (b % 16 * 16 + c / 4)]
  | [a, b] => [UInt8.ofNat (a * 4 + b / 16)]
  | _ => []

def decode (text : List Char) : Except Problem (List UInt8) :=
  let (found, padded) := letters [] 0 text
  if padded || found.length % 4 = 0 then .ok (bytes found)
  else if found.length % 4 = 1 then .error (.lonely found.length)
  else .error .padding

end TypeAnnotation.Text.Base64
