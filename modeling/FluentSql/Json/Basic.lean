import FluentSql.Binary64.Layout
import FluentSql.KeyMap

/-! # JSON values

A JSON value as data.  Whole numbers in the range of the signed or unsigned 64-bit integers are
`int`, all other numbers are `float`.  The members of an object are listed by increasing name,
each name once; `Json.ofMembers` brings any list of members into this form. -/

namespace FluentSql

/-- A JSON value. -/
inductive Json where
  | null
  | bool (b : Bool)
  | int (n : Int)
  | float (x : Binary64)
  | string (s : String)
  | array (items : List Json)
  | object (members : List (String × Json))
deriving Repr

namespace Json

instance : Inhabited Json := ⟨.null⟩

/-- The object with the given members, where the last one with a name stands. -/
def ofMembers (members : List (String × Json)) : Json := .object (KeyMap.ofList members).entries

/-- The members of an object by name. -/
def toMap? : Json → Option (KeyMap Json)
  | .object members => some (KeyMap.ofList members)
  | _ => none

/-- The member of an object under a name. -/
def get? (v : Json) (name : String) : Option Json :=
  match v with
  | .object members => members.lookup name
  | _ => none

end Json

end FluentSql
