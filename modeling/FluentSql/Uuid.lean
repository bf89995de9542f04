import FluentSql.Text.Hex

/-! # Universally unique identifiers

A `Uuid` is a number of 128 bits.  Its text has 32 lower-case hexadecimal digits in five groups.
`Uuid.parse?` also accepts upper case, the digits without hyphens, and the grouped form in
braces or after `urn:uuid:` in either case. -/

namespace FluentSql

/-- A number of 128 bits. -/
structure Uuid where
  value : Nat
deriving DecidableEq, Repr

namespace Uuid

/-- The sizes of the groups of digits. -/
def groupSizes : List Nat := [8, 4, 4, 4, 12]

/-- The digits cut into groups of the given sizes. -/
def groups : List Nat → List Char → List (List Char)
  | [], _ => []
  | n :: ns, cs => cs.take n :: groups ns (cs.drop n)

/-- The 32 digits of the number. -/
def digits (u : Uuid) : List Char :=
  let ds := Nat.toDigits 16 u.value
  List.replicate (32 - ds.length) '0' ++ ds

/-- The grouped lower-case form. -/
def text (u : Uuid) : String :=
  "-".intercalate ((groups groupSizes u.digits).map String.ofList)

/-- The number written with hexadecimal digits. -/
def ofDigits? (cs : List Char) : Option Uuid := (Text.hexNumber? cs).map Uuid.mk

/-- Reads the grouped form. -/
def ofGrouped? (cs : List Char) : Option Uuid :=
  let parts := cs.splitOn '-'
  if parts.map List.length = groupSizes then ofDigits? parts.flatten else none

/-- The words in front of the digits where the number is given as a name. -/
def namespaceWords : List Char := "urn:uuid:".toList

/-- The text behind the namespace, whose letters may be of either case. -/
def afterNamespace? (cs : List Char) : Option (List Char) :=
  let size := namespaceWords.length
  if (cs.take size).map Char.toLower = namespaceWords then some (cs.drop size) else none

/-- Reads one of the four forms. -/
def parse? (s : String) : Option Uuid :=
  match s.toList with
  | '\x7b' :: cs => if cs.getLast? = some '\x7d' then ofGrouped? cs.dropLast else none
  | cs =>
      if cs.length = 32 then ofDigits? cs
      else ofGrouped? ((afterNamespace? cs).getD cs)

end Uuid

end FluentSql
