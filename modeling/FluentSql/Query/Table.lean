import FluentSql.Literal.Printer
import FluentSql.Query.Basic

/-! # Building FROM and JOIN clauses

Both clauses have a table and an alias.  A query put in place of a table name takes the name as
its alias when there is none.  A join moreover splits a table name that carries an alias. -/

namespace FluentSql

namespace TableSource

/-- The identifier, if the table is named. -/
def identifier? : TableSource → Option Identifier
  | name id => some id
  | _ => none

/-- The call that reads a table of another server.  A password counts only with a user. -/
def remote (address database table : String) (user password : Option String) : TableSource :=
  let login :=
    match user with
    | some user => Text.quote user :: (password.map Text.quote).toList
    | none => []
  .raw ("remote(" ++ Text.commaList ([Text.quote address, database, table] ++ login) ++ ")")

/-- The call that reads all tables of a database whose names match a pattern. -/
def merge (database pattern : String) : TableSource :=
  .raw ("merge(" ++ Text.commaList [database, Text.quote pattern] ++ ")")

end TableSource

namespace FromClause

/-- The clause with another table. -/
def setTable (f : FromClause) (t : TableSource) : FromClause := { f with table := some t }

/-- The clause with another alias. -/
def setAlias (f : FromClause) (aliasName : Identifier) : FromClause :=
  { f with aliasName := some aliasName }

/-- The clause with FINAL or without. -/
def setFinal (f : FromClause) (isFinal : Bool) : FromClause := { f with isFinal := isFinal }

/-- The clause with a query for its table. -/
def setQuery (f : FromClause) (q : Query) : FromClause :=
  { f with
    table := some (.query q)
    aliasName := f.aliasName.or (f.table.bind TableSource.identifier?) }

end FromClause

namespace Join

/-- The join with another table.  A name that carries an alias gives both. -/
def setTable (j : Join) (t : TableSource) : Join :=
  match t.identifier?.bind Identifier.splitAlias? with
  | some (name, aliasName) => { j with table := some (.name name), aliasName := some aliasName }
  | none => { j with table := some t }

/-- The join with another alias. -/
def setAlias (j : Join) (aliasName : Identifier) : Join := { j with aliasName := some aliasName }

/-- The join with a query for its table. -/
def setQuery (j : Join) (q : Query) : Join :=
  { j with
    table := some (.query q)
    aliasName := j.aliasName.or (j.table.bind TableSource.identifier?) }

/-- The join with a query for its table, under an alias. -/
def subQuery (j : Join) (aliasName : Identifier) (q : Query) : Join :=
  (j.setAlias aliasName).setQuery q

/-- The join with other common columns. -/
def setUsing (j : Join) (columns : List Identifier) : Join := { j with usingColumns := columns }

/-- The join with more common columns. -/
def addUsing (j : Join) (columns : List Identifier) : Join :=
  { j with usingColumns := j.usingColumns ++ columns }

/-- The join with one more condition. -/
def addCondition (j : Join) (p : Predicate) : Join :=
  { j with onConditions := j.onConditions ++ [p] }

/-- The join with one more condition on two columns. -/
def onColumns (j : Join) (c : Conjunction) (first : Identifier) (op : Operator)
    (second : Identifier) : Join :=
  j.addCondition
    { first := .value (.identifier first)
      operator := some op
      second := some (.value (.identifier second))
      conjunction := c }

/-- The join with one more condition, written as it is. -/
def onRaw (j : Join) (sql : String) : Join := j.addCondition { first := .value (.raw sql) }

/-- The join with another strictness. -/
def setStrictness (j : Join) (s : JoinStrictness) : Join := { j with strictness := some s }

/-- The join with another kind. -/
def setKind (j : Join) (k : JoinKind) : Join := { j with kind := some k }

def all (j : Join) : Join := j.setStrictness .all

def any (j : Join) : Join := j.setStrictness .any

def inner (j : Join) : Join := j.setKind .inner

def left (j : Join) : Join := j.setKind .left

def right (j : Join) : Join := j.setKind .right

def full (j : Join) : Join := j.setKind .full

def cross (j : Join) : Join := j.setKind .cross

def asof (j : Join) : Join := j.setKind .asof

/-- The join on all servers or on this one. -/
def setGlobal (j : Join) (isGlobal : Bool) : Join := { j with isGlobal := isGlobal }

end Join

end FluentSql
