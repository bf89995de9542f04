import FluentSql.Query.Builder
import FluentSql.Sql.Select

/-! # Compiled queries and rows

A `CompiledQuery` is all that a client needs to run a query; a `RowSet` is what comes back.  The
queries of a batch are compiled one by one, each with its own tables and settings. -/

namespace FluentSql

/-- A query as text, with what is sent along. -/
structure CompiledQuery where
  sql : String
  tables : List ExternalTable := []
  settings : Settings := KeyMap.empty
deriving DecidableEq

/-- A row of an answer: its values by column. -/
abbrev Row := KeyMap Json

/-- The rows of an answer. -/
abbrev RowSet := List Row

namespace Query

/-- The query compiled. -/
def compile (q : Query) : Except QueryError CompiledQuery := do
  let sql ← q.toSql
  return { sql := sql, tables := q.tables.values, settings := q.settings }

/-- A query is compiled to its text and to what is sent along with the query itself. -/
theorem compile_eq_ok_iff {q : Query} {c : CompiledQuery} :
    q.compile = .ok c ↔
      q.toSql = .ok c.sql ∧ c.tables = q.tables.values ∧ c.settings = q.settings := by
  rw [compile, bind_eq_ok]
  constructor
  · rintro ⟨sql, hsql, h⟩
    obtain rfl := Except.ok.inj h
    exact ⟨hsql, rfl, rfl⟩
  · rintro ⟨hsql, htables, hsettings⟩
    refine ⟨c.sql, hsql, ?_⟩
    rw [← htables, ← hsettings]
    rfl

/-- Several queries compiled; the first that is malformed decides the error. -/
def compileList : List Query → Except QueryError (List CompiledQuery)
  | [] => .ok []
  | q :: qs => do
      let c ← q.compile
      let cs ← compileList qs
      return c :: cs

/-- The query and all that run with it, compiled. -/
def compileBatch (q : Query) : Except QueryError (List CompiledQuery) := compileList q.batch

end Query

end FluentSql
