/-! # Numbers in texts

A text writes a number by its digits, the first one leading: hexadecimal digits of either case, or
decimal digits with a plus sign in front or none (`unsigned?`). -/

namespace FluentSql.Text

/-- The lower-case digit for the last four bits of `n`. -/
def hexDigit (n : Nat) : Char := Nat.digitChar (n % 16)

/-- The value of a digit of either case. -/
def hexValue? (c : Char) : Option Nat :=
  if c.isDigit then some (c.toNat - '0'.toNat)
  else if 'a' ≤ c ∧ c ≤ 'f' then some (c.toNat - 'a'.toNat + 10)
  else if 'A' ≤ c ∧ c ≤ 'F' then some (c.toNat - 'A'.toNat + 10)
  else none

/-- The number written with the digits, the first one leading. -/
def hexNumber? (cs : List Char) : Option Nat :=
  cs.foldlM (fun n c => (hexValue? c).map (16 * n + ·)) 0

/-- The number that decimal digits write, the first one leading. -/
def decimalValue (digits : List Char) : Nat :=
  digits.foldl (fun n c => 10 * n + (c.toNat - '0'.toNat)) 0

/-- The unsigned 64-bit integer that a text writes. -/
def unsigned? (s : String) : Option Nat :=
  let digits :=
    match s.toList with
    | '+' :: cs => cs
    | cs => cs
  if digits ≠ [] ∧ digits.all Char.isDigit then
    let n := decimalValue digits
    if n < UInt64.size then some n else none
  else none

end FluentSql.Text
