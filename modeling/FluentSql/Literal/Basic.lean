import FluentSql.Binary64.Layout
import FluentSql.Calendar
import FluentSql.Identifier
import FluentSql.Json.Basic
import FluentSql.Uuid

/-! # Literal values

A `Value` is what can stand in the place of a literal: null, a truth value, a signed or unsigned
64-bit integer, a floating point number, a text, an array, but also a name or a raw piece of
SQL.  Dates, times, identifiers of the universal kind and JSON values have their value by one
of the `ofX` functions. -/

namespace FluentSql

/-- A value in the place of a literal. -/
inductive Value where
  | null
  | bool (b : Bool)
  | int (n : Int64)
  | uint (n : UInt64)
  | float (x : Binary64)
  | string (s : String)
  | identifier (id : Identifier)
  /-- A piece of SQL that is written as it is. -/
  | raw (sql : String)
  | array (items : List Value)
deriving Repr

namespace Value

instance : Inhabited Value := ⟨.null⟩

/-- Whether the value is null. -/
def isNull : Value → Bool
  | null => true
  | _ => false

/-- The text of a string value. -/
def text? : Value → Option String
  | string s => some s
  | _ => none

/-- The value of an optional value: null when there is none. -/
def ofOption (v : Option Value) : Value := v.getD null

/-- A date is a text. -/
def ofDate (d : Date) : Value := string d.text

/-- A time is a text. -/
def ofDateTime (t : DateTime) : Value := string t.text

/-- A local time so many seconds east of the prime meridian is written as its time there. -/
def ofZonedDateTime (t : DateTime) (offset : Int) : Value := ofDateTime (t.toUtc offset)

/-- A universally unique identifier is a text. -/
def ofUuid (u : Uuid) : Value := string u.text

end Value

/-- An ordered group of values. -/
structure Tuple where
  elements : List Value
deriving Repr

namespace Tuple

/-- The tuple with one more element at the end. -/
def push (t : Tuple) (v : Value) : Tuple := ⟨t.elements ++ [v]⟩

/-- The tuple with more elements at the end. -/
def extend (t : Tuple) (vs : List Value) : Tuple := ⟨t.elements ++ vs⟩

/-- The number of elements. -/
def size (t : Tuple) : Nat := t.elements.length

/-- Whether there is no element. -/
def isEmpty (t : Tuple) : Bool := t.elements.isEmpty

end Tuple

end FluentSql
