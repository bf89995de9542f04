import FluentSql.Sql.Clause

/-! # The text of a SELECT statement

`Query.toSql` writes a query.  The clauses stand in a fixed order: columns, FROM, SAMPLE, ARRAY
JOIN, joins, PREWHERE, WHERE, GROUP BY, HAVING, ORDER BY, LIMIT BY, LIMIT, unions, FORMAT; a
clause without text is left out.  The error of a malformed query is that of its first malformed
part in this order. -/

namespace FluentSql

/-- A text in parentheses. -/
def parenthesized (sql : String) : String := "(" ++ sql ++ ")"

mutual

/-- What a column selects; columns and queries inside it are in parentheses. -/
def ColumnSource.toSql : ColumnSource → Except QueryError String
  | .value v => return v.sql
  | .column c => return parenthesized (← c.toSql)
  | .query q => return parenthesized (← q.toSql)

/-- What a column selects, if it selects anything. -/
def ColumnSource.toSqlOrNothing : Option ColumnSource → Except QueryError String
  | none => return ""
  | some s => s.toSql

/-- A column with its functions and its alias. -/
def Column.toSql : Column → Except QueryError String
  | ⟨source, aliasName, functions⟩ => do
      let inner ← ColumnSource.toSqlOrNothing source
      return aliased (ColumnFunction.applyAll none inner functions) aliasName

/-- The texts of several columns. -/
def Column.toSqlList : List Column → Except QueryError (List String)
  | [] => return []
  | c :: cs => do
      let sql ← c.toSql
      let rest ← Column.toSqlList cs
      return sql :: rest

/-- The texts of the columns to group by; nothing when one of them is `*`, and then the columns
after it do not matter. -/
def Column.toSqlGroups : List Column → Except QueryError (Option (List String))
  | [] => return some []
  | c :: cs => do
      let sql ← c.toSql
      if sql = "*" then return none
      else do
        let rest ← Column.toSqlGroups cs
        return rest.map (sql :: ·)

/-- A table name, a table function or a query in parentheses. -/
def TableSource.toSql : TableSource → Except QueryError String
  | .name id => return id.quoted
  | .raw sql => return sql
  | .query q => return parenthesized (← q.toSql)

/-- The table of a clause that must have one. -/
def TableSource.toSqlOrMissing : Option TableSource → Except QueryError String
  | none => throw .missingFrom
  | some t => t.toSql

/-- The FROM clause. -/
def FromClause.toSql : FromClause → Except QueryError String
  | ⟨table, aliasName, isFinal⟩ =>
      return fromText (← TableSource.toSqlOrMissing table) aliasName isFinal

/-- The FROM clause of a query that has one. -/
def FromClause.toSqlOrNothing : Option FromClause → Except QueryError String
  | none => return ""
  | some f => f.toSql

/-- The array of an ARRAY JOIN clause; a column in it stands without parentheses. -/
def ColumnSource.toSqlBare : ColumnSource → Except QueryError String
  | .value v => return v.sql
  | .column c => c.toSql
  | .query q => return parenthesized (← q.toSql)

/-- The ARRAY JOIN clause. -/
def ArrayJoin.toSql : ArrayJoin → Except QueryError String
  | ⟨array, isLeft⟩ => return arrayJoinText isLeft (← array.toSqlBare)

/-- The ARRAY JOIN clause of a query that has one. -/
def ArrayJoin.toSqlOrNothing : Option ArrayJoin → Except QueryError String
  | none => return ""
  | some a => a.toSql

/-- A join.  Its parts are checked before its table and its keys are compiled. -/
def Join.toSql : Join → Except QueryError String
  | ⟨table, strictness, kind, aliasName, isGlobal, usingColumns, onConditions⟩ => do
      Join.check table.isSome (usingColumns ≠ []) (¬ onConditions.isEmpty)
      let table ← TableSource.toSqlOrMissing table
      let conditions ← Predicate.toSqlList onConditions
      return joinText isGlobal strictness kind table aliasName (joinKeys usingColumns conditions)

/-- The texts of several joins. -/
def Join.toSqlList : List Join → Except QueryError (List String)
  | [] => return []
  | j :: js => do
      let sql ← j.toSql
      let rest ← Join.toSqlList js
      return sql :: rest

/-- One side of a condition. -/
def Operand.toSql : Operand → Except QueryError String
  | .value v => return v.sql
  | .tuple t => return parenthesized t.sql
  | .column c => c.toSql
  | .group ps => return parenthesized (linked (← Predicate.toSqlList ps))
  | .predicate p => p.toSql
  | .query q => return parenthesized (← q.toSql)

/-- The second side of a condition, if it has one. -/
def Operand.toSqlOrNothing : Option Operand → Except QueryError String
  | none => return ""
  | some o => o.toSql

/-- A condition without its conjunction. -/
def Predicate.toSql : Predicate → Except QueryError String
  | ⟨first, operator, second, _⟩ => do
      let first ← first.toSql
      let second ← Operand.toSqlOrNothing second
      return relation first operator second

/-- The texts of several conditions with their conjunctions. -/
def Predicate.toSqlList : List Predicate → Except QueryError (List (Conjunction × String))
  | [] => return []
  | p :: ps => do
      let sql ← p.toSql
      let rest ← Predicate.toSqlList ps
      return (p.conjunction, sql) :: rest

/-- An entry of the ORDER BY clause. -/
def Order.toSql : Order → Except QueryError String
  | ⟨column, direction, collation⟩ => return orderText (← column.toSql) direction collation

/-- The texts of several entries. -/
def Order.toSqlList : List Order → Except QueryError (List String)
  | [] => return []
  | o :: os => do
      let sql ← o.toSql
      let rest ← Order.toSqlList os
      return sql :: rest

/-- The LIMIT BY clause. -/
def LimitBy.toSql : LimitBy → Except QueryError String
  | ⟨limit, columns⟩ => return limit.sql ++ " BY " ++ Text.commaList (← Column.toSqlList columns)

/-- The LIMIT BY clause of a query that has one. -/
def LimitBy.toSqlOrNothing : Option LimitBy → Except QueryError String
  | none => return ""
  | some l => l.toSql

/-- A query. -/
def Query.toSql : Query → Except QueryError String
  | ⟨columns, fromClause, sample, arrayJoin, joins, preWheres, wheres, groups, havings, orders,
      limitBy, limit, unions, format, _, _, _, _, fault⟩ => do
      ArgumentFault.check fault
      let columns ← Column.toSqlList columns
      let fromClause ← FromClause.toSqlOrNothing fromClause
      let arrayJoin ← ArrayJoin.toSqlOrNothing arrayJoin
      let joins ← Join.toSqlList joins
      let preWheres ← Predicate.toSqlList preWheres
      let wheres ← Predicate.toSqlList wheres
      let groups ← Column.toSqlGroups groups
      let havings ← Predicate.toSqlList havings
      let orders ← Order.toSqlList orders
      let limitBy ← LimitBy.toSqlOrNothing limitBy
      let unions ← Query.toSqlList unions
      return Text.fragments
        ["SELECT", selectList columns, fromClause, sampleClause sample, arrayJoin,
         joinClauses joins, Text.clause "PREWHERE" (linked preWheres),
         Text.clause "WHERE" (linked wheres), groupClause groups,
         Text.clause "HAVING" (linked havings), orderClauseOrNothing orders, limitBy,
         limitClause limit, unionClause unions, formatClause format]

/-- The texts of several queries. -/
def Query.toSqlList : List Query → Except QueryError (List String)
  | [] => return []
  | q :: qs => do
      let sql ← q.toSql
      let rest ← Query.toSqlList qs
      return sql :: rest

end

/-- Conditions in sequence. -/
def Predicate.listToSql (ps : List Predicate) : Except QueryError String :=
  return linked (← Predicate.toSqlList ps)

end FluentSql
