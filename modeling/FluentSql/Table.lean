import FluentSql.Identifier
import FluentSql.Text.Blank

/-! # Table definitions

The statements that create and drop a table. -/

namespace FluentSql

/-- A CREATE TABLE statement. -/
structure CreateTable where
  table : Identifier
  /-- The engine with its arguments, written as it is. -/
  engine : String := "Memory"
  /-- The columns, each with its type. -/
  columns : List (Identifier × String) := []
  ifNotExists : Bool := false
  cluster : Option String := none
deriving DecidableEq, Repr

/-- A DROP TABLE statement. -/
structure DropTable where
  table : Identifier
  ifExists : Bool := false
  cluster : Option String := none
deriving DecidableEq, Repr

/-- The words that send a statement to all servers of a cluster. -/
def clusterText : Option String → String
  | some cluster => " ON CLUSTER " ++ cluster
  | none => ""

namespace CreateTable

/-- The statement with more columns behind those that it has. -/
def addColumns (t : CreateTable) (columns : List (Identifier × String)) : CreateTable :=
  { t with columns := t.columns ++ columns }

/-- The text of the statement. -/
def toSql (t : CreateTable) : String :=
  "CREATE TABLE " ++ (if t.ifNotExists then "IF NOT EXISTS " else "") ++ t.table.quoted ++
    clusterText t.cluster ++ " (" ++
    Text.commaList (t.columns.map fun c => c.1.quoted ++ " " ++ c.2) ++ ") ENGINE = " ++ t.engine

end CreateTable

/-- The text of the statement. -/
def DropTable.toSql (t : DropTable) : String :=
  "DROP TABLE " ++ (if t.ifExists then "IF EXISTS " else "") ++ t.table.quoted ++
    clusterText t.cluster

end FluentSql
