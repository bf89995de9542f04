import FluentSql.KeyMap
import FluentSql.Literal.Json

/-! # Rows to insert

A row names the column of each value, or lists its values by position.  All rows of one insertion
are of one kind, and rows by position have one length (`InsertRow.columnsOf`).  Named rows may
leave columns out: the columns of the insertion are all that some row names, in increasing order,
and a row has null where it names nothing. -/

namespace FluentSql

/-- A row to insert. -/
inductive InsertRow where
  | named (values : KeyMap Value)
  | positional (values : List Value)

namespace InsertRow

/-- The row with the given values by column, where the last one for a column stands. -/
def ofPairs (pairs : List (String × Value)) : InsertRow := named (KeyMap.ofList pairs)

/-- The row with the members of a JSON object. -/
def ofJson? (v : Json) : Option InsertRow :=
  v.toMap?.map fun members =>
    ofPairs (members.entries.map fun m => (m.1, Value.ofJson m.2))

/-- The columns that the row names, in the order of its values. -/
def columns : InsertRow → List String
  | named values => values.keys
  | positional _ => []

/-- The values in order. -/
def values : InsertRow → List Value
  | named values => values.values
  | positional values => values

/-- The values for the given columns, null where the row has none; a row by position has its own
values. -/
def valuesFor (columns : List String) : InsertRow → List Value
  | named values => columns.map fun c => (values.get? c).getD .null
  | positional values => values

/-! ### One shape for all rows -/

/-- All columns that the rows name, when no row is by position. -/
def namedColumns : List InsertRow → Except QueryError (KeyMap Unit)
  | [] => .ok KeyMap.empty
  | named values :: rows => do
      let columns ← namedColumns rows
      return values.keys.foldl (fun m k => m.insert k ()) columns
  | positional _ :: _ => .error (.invalidArgument .mixedRows)

/-- Checks that all rows are by position and of the given width. -/
def checkWidth (width : Nat) : List InsertRow → Except QueryError Unit
  | [] => .ok ()
  | positional values :: rows =>
      if values.length = width then checkWidth width rows
      else .error (.invalidArgument (.raggedRows width values.length))
  | named _ :: _ => .error (.invalidArgument .mixedRows)

/-- The columns of an insertion of the rows; none when they are by position. -/
def columnsOf : List InsertRow → Except QueryError (List String)
  | [] => .error (.invalidArgument .noRows)
  | named values :: rows => do
      let columns ← namedColumns (named values :: rows)
      return columns.keys
  | positional values :: rows => do
      checkWidth values.length (positional values :: rows)
      return []

/-! ### JSON -/

/-- The JSON forms of named values. -/
def membersJson : List (String × Value) → Except QueryError (List (String × Json))
  | [] => .ok []
  | (name, v) :: rest => do
      let v ← v.toJson
      let rest ← membersJson rest
      return (name, v) :: rest

/-- The row as a JSON object. -/
def toJson : InsertRow → Except QueryError Json
  | named values => do
      let members ← membersJson values.entries
      return .object members
  | positional _ => .error (.invalidArgument .positionalJson)

/-- The rows as JSON objects, each on a line of its own. -/
def jsonLines : List InsertRow → Except QueryError String
  | [] => .ok ""
  | row :: rows => do
      let v ← row.toJson
      let rest ← jsonLines rows
      return v.text ++ "\n" ++ rest

end InsertRow

end FluentSql
