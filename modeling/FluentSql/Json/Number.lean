import FluentSql.Json.Basic

/-! # JSON numbers

A number is read as a sign, a significand of at most 64 bits and a power of ten.  Without point and
exponent it is whole, and stays so when it fits a signed or an unsigned 64-bit integer.  Any
other number is rounded twice: the significand to the nearest binary number, then its product
with, or quotient by, the power of ten. -/

namespace FluentSql

namespace Json

/-- The largest significand plus one. -/
def significandBound : Nat := UInt64.size

/-- The value of a decimal digit. -/
def digitValue (c : Char) : Nat := c.toNat - '0'.toNat

/-- Appends digits to a significand while it stays in bounds; also gives the digits left over. -/
def appendDigits (significand : Nat) : List Char → Nat × List Char
  | [] => (significand, [])
  | c :: cs =>
      let next := 10 * significand + digitValue c
      if next < significandBound then appendDigits next cs else (significand, c :: cs)

/-- `x · 10 ^ exponent`, where powers beyond `10 ^ 308` are applied in steps; nothing when the
result is too large. -/
def timesPowerOfTen? : Nat → Binary64 → Int → Option Binary64
  | 0, x, _ => some x
  | fuel + 1, x, exponent =>
      if exponent.natAbs ≤ 308 then
        match (Binary64.ofNat (Nat.pow 10 exponent.natAbs)).view with
        | .finite _ significand power =>
            let (n, d) := Binary64.toRatio significand power
            let y := if 0 ≤ exponent then x.mulRatio n d else x.mulRatio d n
            if y.isInfinite then none else some y
        | _ => none
      else if x.isZero then some x
      else if 0 ≤ exponent then none
      else
        match (Binary64.ofNat (Nat.pow 10 308)).view with
        | .finite _ significand power =>
            let (n, d) := Binary64.toRatio significand power
            timesPowerOfTen? fuel (x.mulRatio d n) (exponent + 308)
        | _ => none

/-- The binary number for `significand · 10 ^ exponent`.  Three steps reach zero from any
significand. -/
def floatOf? (negative : Bool) (significand : Nat) (exponent : Int) : Option Json :=
  (timesPowerOfTen? 4 (Binary64.ofNat significand) exponent).map fun x =>
    .float (if negative then x.negate else x)

/-- The whole number with a sign and a significand in bounds. -/
def wholeOf (negative : Bool) (significand : Nat) : Json :=
  if negative then
    if 0 < significand ∧ significand ≤ Nat.pow 2 63 then .int (-significand)
    else .float (Binary64.ofNat significand).negate
  else .int significand

/-- The digits at the start of a text, and the rest. -/
def spanDigits (cs : List Char) : List Char × List Char := cs.span Char.isDigit

/-- Reads the exponent after an `e`. -/
def readExponent? (cs : List Char) : Option (Int × List Char) :=
  let (negative, cs) :=
    match cs with
    | '-' :: rest => (true, rest)
    | '+' :: rest => (false, rest)
    | _ => (false, cs)
  match spanDigits cs with
  | ([], _) => none
  | (digits, rest) =>
      let n : Int := digits.foldl (fun n c => 10 * n + digitValue c) (0 : Nat)
      some (if negative then -n else n, rest)

/-- Reads an exponent, if one follows, and finishes the number. -/
def finishFloat? (negative : Bool) (significand : Nat) (exponent : Int) (cs : List Char) :
    Option (Json × List Char) :=
  match cs with
  | 'e' :: rest | 'E' :: rest => do
      let (e, rest) ← readExponent? rest
      let x ← floatOf? negative significand (exponent + e)
      some (x, rest)
  | _ => do
      let x ← floatOf? negative significand exponent
      some (x, cs)

/-- Reads what follows the digits before the point. -/
def readAfterWhole? (negative : Bool) (digits : List Char) (cs : List Char) :
    Option (Json × List Char) :=
  let (significand, dropped) := appendDigits 0 digits
  match cs with
  | '.' :: rest =>
      match spanDigits rest with
      | ([], _) => none
      | (places, rest) =>
          let (longer, ignored) := appendDigits significand places
          finishFloat? negative longer
            ((dropped.length : Int) - (places.length - ignored.length : Nat)) rest
  | c :: _ =>
      if c = 'e' ∨ c = 'E' ∨ dropped ≠ [] then finishFloat? negative significand dropped.length cs
      else some (wholeOf negative significand, cs)
  | [] =>
      if dropped ≠ [] then finishFloat? negative significand dropped.length []
      else some (wholeOf negative significand, [])

/-- Reads a number from the start of a text.  A leading zero stands alone. -/
def readNumber? (cs : List Char) : Option (Json × List Char) :=
  let (negative, cs) :=
    match cs with
    | '-' :: rest => (true, rest)
    | _ => (false, cs)
  match spanDigits cs with
  | ([], _) => none
  | ('0' :: _ :: _, _) => none
  | (digits, rest) => readAfterWhole? negative digits rest

end Json

end FluentSql
