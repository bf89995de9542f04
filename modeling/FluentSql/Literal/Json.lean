import FluentSql.Error
import FluentSql.Json.Printer
import FluentSql.Literal.Basic

/-! # Literals and JSON

`Value.toJson` gives the form of a value in a payload of rows; names and raw pieces of SQL have
none.  `Value.ofJson` is the way back, except that an object becomes its text. -/

namespace FluentSql

namespace Value

mutual

/-- The JSON form of a value.  A number that is infinite or none at all has the form null. -/
def toJson : Value → Except QueryError Json
  | .null => .ok .null
  | .bool b => .ok (.bool b)
  | .int n => .ok (.int n.toInt)
  | .uint n => .ok (.int n.toNat)
  | .float x =>
      match x.view with
      | .finite _ _ _ => .ok (.float x)
      | _ => .ok .null
  | .string s => .ok (.string s)
  | .identifier id => .error (.invalidArgument (.identifierInRow id.raw))
  | .raw sql => .error (.invalidArgument (.rawInRow sql))
  | .array items => do
      let items ← toJsonList items
      return .array items

/-- The JSON forms of several values; the first value without one decides the error. -/
def toJsonList : List Value → Except QueryError (List Json)
  | [] => .ok []
  | v :: vs => do
      let v ← v.toJson
      let vs ← toJsonList vs
      return v :: vs

end

mutual

/-- The value of a JSON value.  A whole number is signed when it fits. -/
def ofJson : Json → Value
  | .null => .null
  | .bool b => .bool b
  | .int n => if n < Nat.pow 2 63 then .int (Int64.ofInt n) else .uint (UInt64.ofNat n.toNat)
  | .float x => .float x
  | .string s => .string s
  | .array items => .array (ofJsonList items)
  | .object members => .string (Json.object members).text

/-- The values of several JSON values. -/
def ofJsonList : List Json → List Value
  | [] => []
  | v :: vs => ofJson v :: ofJsonList vs

end

end Value

end FluentSql
