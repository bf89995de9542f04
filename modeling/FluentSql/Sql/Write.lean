import FluentSql.Insert.Row
import FluentSql.Sql.Select
import FluentSql.Table

/-! # Statements that change a table

Insertions and deletions take their table from the FROM clause of a query.  An insertion in the
format `Values` carries its rows in the statement; in the format `JSONEachRow` the rows travel
apart and the statement is only a header.  A deletion also takes the WHERE conditions, and is
refused when they have no text. -/

namespace FluentSql

namespace Query

/-- The table of the FROM clause. -/
def table? (q : Query) : Option TableSource := q.fromClause.bind FromClause.table

/-- The text of the table, or an error when there is none. -/
def tableSql (q : Query) (missing : QueryError) : Except QueryError String :=
  match q.table? with
  | some t => t.toSql
  | none => .error missing

theorem tableSql_eq_ok_iff {q : Query} {missing : QueryError} {table : String} :
    q.tableSql missing = .ok table ↔ ∃ t, q.table? = some t ∧ t.toSql = .ok table := by
  unfold tableSql
  cases q.table? <;> simp

/-- The start of an insertion: the table, the columns if any are given, and the format. -/
def insertHeader (q : Query) (columns : List Identifier) (format : Format) :
    Except QueryError String := do
  let table ← q.tableSql .missingInsertTable
  let columns := if columns = [] then "" else " (" ++ Identifier.quotedList columns ++ ")"
  return "INSERT INTO " ++ table ++ columns ++ " FORMAT " ++ format.token

/-- An insertion has a header if its table has a text, and this is what it says. -/
theorem insertHeader_eq_ok_iff {q : Query} {columns : List Identifier} {format : Format}
    {header : String} :
    q.insertHeader columns format = .ok header ↔
      ∃ t table, q.table? = some t ∧ t.toSql = .ok table ∧
        header = "INSERT INTO " ++ table ++
          (if columns = [] then "" else " (" ++ Identifier.quotedList columns ++ ")") ++
          " FORMAT " ++ format.token := by
  unfold insertHeader
  simp only [bind_eq_ok, tableSql_eq_ok_iff]
  constructor
  · rintro ⟨table, ⟨t, ht, htable⟩, hheader⟩
    exact ⟨t, table, ht, htable, (Except.ok.inj hheader).symm⟩
  · rintro ⟨t, table, ht, htable, rfl⟩
    exact ⟨table, ⟨t, ht, htable⟩, rfl⟩

/-- The values of a row in parentheses. -/
def rowText (columns : List String) (row : InsertRow) : String :=
  parenthesized (Text.commaList (Value.sqlList (row.valuesFor columns)))

/-- An insertion that carries its rows. -/
def insertValues (q : Query) (rows : List InsertRow) : Except QueryError String := do
  let columns ← InsertRow.columnsOf rows
  let header ← q.insertHeader (columns.map Identifier.mk) .values
  return header ++ " " ++ Text.commaList (rows.map (rowText columns))

/-- The insertion of the rows, in the format of the query. -/
def insertSql (q : Query) (rows : List InsertRow) : Except QueryError String :=
  match q.format.getD .values with
  | .values => q.insertValues rows
  | .jsonEachRow => q.insertHeader [] .jsonEachRow
  | format => .error (.unsupportedInsertFormat format)

/-- The WHERE clause. -/
def whereSql (q : Query) : Except QueryError String := do
  let conditions ← Predicate.toSqlList q.wheres
  return Text.clause "WHERE" (linked conditions)

/-- The deletion of the rows that meet the WHERE conditions. -/
def deleteSql (q : Query) : Except QueryError String := do
  let table ← q.tableSql .missingFrom
  let conditions ← q.whereSql
  if conditions = "" then .error .missingDeleteWhere
  else return "ALTER TABLE " ++ table ++ clusterText q.cluster ++ " DELETE " ++ conditions

end Query

end FluentSql
