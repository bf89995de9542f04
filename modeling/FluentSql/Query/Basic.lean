import FluentSql.Error
import FluentSql.Keyword
import FluentSql.Literal.Basic
import FluentSql.Query.Supplement

/-! # Queries as data

A `Query` is a SELECT statement with all that is nested in it, before any text is made.  Columns,
tables, joins and conditions can hold queries again, so the types are one family.  A query also
carries what is sent with it: the attached tables, the settings, and the other queries that are to
run at the same time. -/

namespace FluentSql

/-- One step in the pipeline of functions around a column. -/
inductive ColumnFunction where
  | sum
  | round (decimals : Int32)
  | plus (v : Value)
  | multiply (v : Value)
  | runningDifference
  /-- The number of rows, whatever the column. -/
  | count
  | distinct
  | sumIf (op : Operator) (v : Value)
deriving Repr

/-- A window on rows: at most `count` of them, after `offset` others. -/
structure RowLimit where
  count : UInt64
  offset : Option UInt64 := none
deriving DecidableEq, Repr

mutual

/-- What a column selects. -/
inductive ColumnSource where
  | value (v : Value)
  | column (c : Column)
  | query (q : Query)

/-- A selected value: its source, the functions around it from the inside out, and an alias. -/
structure Column where
  source : Option ColumnSource := none
  aliasName : Option Identifier := none
  functions : List ColumnFunction := []

/-- What rows are read from. -/
inductive TableSource where
  | name (id : Identifier)
  /-- A piece of SQL that is written as it is, such as a table function. -/
  | raw (sql : String)
  | query (q : Query)

/-- The FROM clause. -/
structure FromClause where
  table : Option TableSource := none
  aliasName : Option Identifier := none
  isFinal : Bool := false

/-- The ARRAY JOIN clause. -/
structure ArrayJoin where
  array : ColumnSource
  isLeft : Bool := false

/-- A join.  Its keys are either common columns or conditions; whether it has a table and keys of
one kind only is looked at when it is compiled. -/
structure Join where
  table : Option TableSource := none
  strictness : Option JoinStrictness := none
  kind : Option JoinKind := none
  aliasName : Option Identifier := none
  isGlobal : Bool := false
  usingColumns : List Identifier := []
  onConditions : List Predicate := []

/-- One side of a condition. -/
inductive Operand where
  | value (v : Value)
  /-- A list of values in parentheses. -/
  | tuple (t : Tuple)
  | column (c : Column)
  /-- A list of conditions in parentheses. -/
  | group (ps : List Predicate)
  /-- A condition without parentheses, such as the two bounds of a range. -/
  | predicate (p : Predicate)
  | query (q : Query)

/-- A condition, with the conjunction that links it to the one before it.  Without an operator it is
its first side alone. -/
structure Predicate where
  first : Operand
  operator : Option Operator := none
  second : Option Operand := none
  conjunction : Conjunction := .and

/-- An entry of the ORDER BY clause. -/
structure Order where
  column : Column
  direction : Option Direction := none
  collation : Option String := none

/-- The LIMIT BY clause: a window on the rows that agree in some columns. -/
structure LimitBy where
  limit : RowLimit
  columns : List Column

/-- A SELECT statement and what is sent with it. -/
structure Query where
  columns : List Column := []
  fromClause : Option FromClause := none
  sample : Option Binary64 := none
  arrayJoin : Option ArrayJoin := none
  joins : List Join := []
  preWheres : List Predicate := []
  wheres : List Predicate := []
  groups : List Column := []
  havings : List Predicate := []
  orders : List Order := []
  limitBy : Option LimitBy := none
  limit : Option RowLimit := none
  unions : List Query := []
  format : Option Format := none
  /-- The queries to run at the same time. -/
  siblings : List Query := []
  tables : KeyMap ExternalTable := KeyMap.empty
  settings : Settings := KeyMap.empty
  cluster : Option String := none
  /-- The first argument that was refused while the query was built. -/
  fault : Option ArgumentFault := none

end

instance : Inhabited Query := ⟨{}⟩

end FluentSql
