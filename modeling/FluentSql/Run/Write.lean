import FluentSql.Client.Basic
import FluentSql.Sql.Write

/-! # Writing rows and tables

Insertions of rows and of files, deletions, and table definitions.  Each statement is compiled
before its client is called. -/

namespace FluentSql

variable {σ : Type}

namespace Client

/-- Runs a statement without data. -/
def run (client : Client σ) (sql : String) : Session σ Bool :=
  Session.await (client.write sql none)

end Client

namespace Query

/-- Inserts the rows into the table of the query.  Without rows nothing is done. -/
def insert (q : Query) (client : Client σ) (rows : List InsertRow) : Session σ Bool := do
  if rows.isEmpty then return false
  else do
    let sql ← Session.ofExcept (q.insertSql rows)
    match q.format with
    | some .jsonEachRow => do
        let lines ← Session.ofExcept (InsertRow.jsonLines rows)
        Session.await (client.write sql (some (.ofText lines)))
    | _ => client.run sql

/-- Inserts files into the table of the query, so many at a time; the results are in the order of
the files. -/
def insertFiles (q : Query) (client : Client σ) (columns : List Identifier)
    (files : List Payload) (format : Format) (concurrency : Nat) : Session σ (List Bool) := do
  let sql ← Session.ofExcept (q.insertHeader columns format)
  Session.await (Reply.inTurn (fun file => client.write sql (some file)) (max concurrency 1) files)

/-- Inserts a file into the table of the query. -/
def insertFile (q : Query) (client : Client σ) (columns : List Identifier) (file : Payload)
    (format : Format) : Session σ Bool := do
  let results ← q.insertFiles client columns [file] format 1
  return results.all id

/-- Deletes the rows that meet the WHERE conditions of the query. -/
def delete (q : Query) (client : Client σ) : Session σ Bool := do
  let sql ← Session.ofExcept q.deleteSql
  client.run sql

end Query

/-- Creates the table. -/
def CreateTable.run (t : CreateTable) (client : Client σ) : Session σ Bool := client.run t.toSql

/-- Drops the table. -/
def DropTable.run (t : DropTable) (client : Client σ) : Session σ Bool := client.run t.toSql

/-- Loads the payload into a table in memory of the same name, in place of any such table.  The
payload is taken for comma-separated values unless a format is given. -/
def ExternalTable.intoMemory (t : ExternalTable) (client : Client σ) : Session σ Bool := do
  if t.columns.isEmpty then Session.fail .noTableStructure
  else do
    let _ ← DropTable.run { table := ⟨t.name⟩, ifExists := true } client
    let columns := t.columns.map fun c => (Identifier.mk c.1, c.2)
    let _ ← CreateTable.run { table := ⟨t.name⟩, columns := columns } client
    let target : Query := { fromClause := some { table := some (.name ⟨t.name⟩) } }
    target.insertFile client [] t.payload (t.format.getD .csv)

end FluentSql
