import FluentSql.Binary64.Shortest

/-! # Written numbers

A `Layout` says how the shortest digits of a number are written: which way a tie between two
decimals goes, for which exponents the digits are written around a point and without an
exponent, and what follows the digits of a whole number.  `Layout.sql` is the layout of SQL text
and `Layout.json` that of JSON text. -/

namespace FluentSql

/-- How numbers of the binary format are written in decimal. -/
structure Layout where
  tie : Tie
  /-- The decimal exponents, first included and last excluded, that are written positionally;
  without a range all are. -/
  positional : Option (Int × Int)
  /-- What follows the digits of a whole number in positional notation. -/
  wholeEnd : String

namespace Layout

/-- In SQL every number is positional and a whole number has no point. -/
def sql : Layout := { tie := .up, positional := none, wholeEnd := "" }

/-- In JSON numbers from `10 ^ -5` up to `10 ^ 16` are positional, with at least one place after the
point. -/
def json : Layout := { tie := .toEven, positional := some (-5, 16), wholeEnd := ".0" }

/-- The digits of `d` around a point. -/
def positionalText (wholeEnd : String) (d : Decimal) : String :=
  let digits := Nat.toDigits 10 d.digits
  if 0 ≤ d.exponent then
    String.ofList (digits ++ List.replicate d.exponent.toNat '0') ++ wholeEnd
  else
    let places := (-d.exponent).toNat
    let padded := List.replicate (places + 1 - digits.length) '0' ++ digits
    let split := padded.length - places
    String.ofList (padded.take split) ++ "." ++ String.ofList (padded.drop split)

/-- The digits of `d` with a point after the first one and the exponent of that digit. -/
def scientificText (d : Decimal) (exponent : Int) : String :=
  let digits := Nat.toDigits 10 d.digits
  let rest := if digits.length ≤ 1 then "" else "." ++ String.ofList digits.tail
  let sign := if 0 ≤ exponent then "+" else "-"
  String.ofList (digits.take 1) ++ rest ++ "e" ++ sign ++ toString exponent.natAbs

/-- A positive decimal in the layout. -/
def decimalText (l : Layout) (d : Decimal) : String :=
  let exponent : Int := d.exponent + Decimal.digitCount d.digits - 1
  match l.positional with
  | none => positionalText l.wholeEnd d
  | some (first, last) =>
      if first ≤ exponent ∧ exponent < last then positionalText l.wholeEnd d
      else scientificText d exponent

/-- A finite number in the layout. -/
def finiteText (l : Layout) (negative : Bool) (significand : Nat) (exponent : Int) : String :=
  let magnitude :=
    if significand = 0 then "0" ++ l.wholeEnd
    else l.decimalText (Decimal.shortest l.tie significand exponent)
  if negative then "-" ++ magnitude else magnitude

end Layout

namespace Binary64

/-- The number in SQL notation, with `nan` in place of a value that is no number. -/
def positionalOr (nan : String) (x : Binary64) : String :=
  match x.view with
  | .nan => nan
  | .infinite negative => if negative then "-inf" else "inf"
  | .finite negative significand exponent => Layout.sql.finiteText negative significand exponent

/-- The number as an SQL literal. -/
def sqlText (x : Binary64) : String := x.positionalOr "nan"

/-- The number as the value of a setting. -/
def settingText (x : Binary64) : String := x.positionalOr "NaN"

/-- The number as JSON text; JSON has no infinities, and `null` stands for them. -/
def jsonText (x : Binary64) : String :=
  match x.view with
  | .finite negative significand exponent => Layout.json.finiteText negative significand exponent
  | _ => "null"

end Binary64

end FluentSql
