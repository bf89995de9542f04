import FluentSql.Binary64.Layout
import FluentSql.KeyMap
import FluentSql.Keyword

/-! # What is sent with a query

A `Payload` is data that the library passes on unread.  An `ExternalTable` is a payload with a name
under which a query can refer to it as a table.  Settings are texts by name. -/

namespace FluentSql

/-- Data in memory, or in a file known by its path. -/
inductive Payload where
  | path (file : String)
  | memory (bytes : List UInt8)
deriving DecidableEq

/-- The payload that holds a text, as UTF-8. -/
def Payload.ofText (s : String) : Payload := .memory s.toUTF8.data.toList

/-- A payload that a query can read as a table. -/
structure ExternalTable where
  name : String
  payload : Payload
  /-- The columns, each with its type. -/
  columns : List (String × String) := []
  format : Option Format := none
deriving DecidableEq

/-! ### Settings -/

/-- The settings of a query. -/
abbrev Settings := KeyMap String

/-- A value that a setting can be given. -/
inductive SettingValue where
  | text (s : String)
  | bool (b : Bool)
  | int (n : Int)
  | float (x : Binary64)
deriving DecidableEq, Repr

/-- The text that is sent for a value. -/
def SettingValue.sent : SettingValue → String
  | text s => s
  | bool b => if b then "true" else "false"
  | int n => toString n
  | float x => x.settingText

/-- The settings with a value under a name. -/
def Settings.set (s : Settings) (name : String) (v : SettingValue) : Settings :=
  s.insert name v.sent

end FluentSql
