import FluentSql.Client.Basic
import FluentSql.Json.Printer
import FluentSql.Query.Count
import FluentSql.Text.Hex
import FluentSql.Text.Printable

/-! # Reading rows

What a query answers: its rows, its first row, the number of its rows, or one page of them.  Each
statement is compiled before the client is called with it, so a malformed one reaches no client. -/

namespace FluentSql

/-- One page of the rows of a query. -/
structure Page where
  items : RowSet
  /-- The number of rows on all pages. -/
  total : Nat
  perPage : UInt64
  current : UInt64
  last : Nat

/-- Whether there are rows on later pages. -/
def Page.hasMore (p : Page) : Bool := p.current.toNat < p.last

/-! ### Counts in answers -/

/-- The count that a value stands for: an unsigned integer, or the text of one. -/
def parseCount : Json → Except QueryError Nat
  | .int n =>
      if 0 ≤ n then .ok n.toNat else .error (.decode (.countNotUnsigned (Json.int n).text))
  | .float x => .error (.decode (.countNotUnsigned (Json.float x).text))
  | .string s =>
      match Text.unsigned? s with
      | some n => .ok n
      | none => .error (.decode (.countNotNumeric s))
  | v => .error (.decode (.countUnexpected v.text))

/-- The count that the rows of a count query tell.  Rows of groups are counted themselves. -/
def countIn (grouped : Bool) (rows : RowSet) : Except QueryError Nat :=
  if grouped then .ok rows.length
  else
    match rows.head?.bind fun row => row.get? "count" with
    | some v => parseCount v
    | none => .ok 0

/-! ### Running queries -/

namespace Query

variable {σ α : Type}

/-- The rows of the query. -/
def get (q : Query) (client : Client σ) : Session σ RowSet := do
  let c ← Session.ofExcept q.compile
  Session.await (client.select c)

/-- The rows of the query and of all that run with it. -/
def getBatch (q : Query) (client : Client σ) : Session σ (List RowSet) := do
  let cs ← Session.ofExcept q.compileBatch
  Session.await (client.selectBatch cs)

/-- The rows of the query, each read by `read`. -/
def getAs (q : Query) (read : Row → Option α) (client : Client σ) : Session σ (List α) := do
  let rows ← q.get client
  match rows.mapM read with
  | some xs => return xs
  | none => Session.fail .serialization

/-- The first row of the query, which is asked for one row only. -/
def first (q : Query) (client : Client σ) : Session σ (Option Row) := do
  let rows ← (q.setLimit { count := 1 }).get client
  return rows.head?

/-- The number of rows of the query. -/
def count (q : Query) (client : Client σ) : Session σ Nat := do
  let rows ← q.countQuery.get client
  Session.ofExcept (countIn (!q.countQuery.groups.isEmpty) rows)

/-- A page of the rows of the query, with their number.  Pages count from one. -/
def paginate (q : Query) (client : Client σ) (page perPage : UInt64) : Session σ Page := do
  if perPage = 0 then Session.fail (.invalidArgument .zeroPageSize)
  else do
    let page := if page = 0 then 1 else page
    let offset := perPage.toNat * (page.toNat - 1)
    if UInt64.size ≤ offset then Session.fail (.invalidArgument (.pageOutOfRange page.toNat))
    else do
      let total ← q.count client
      let window : RowLimit := { count := perPage, offset := some (UInt64.ofNat offset) }
      let items ← (q.setLimit window).get client
      return {
        items := items
        total := total
        perPage := perPage
        current := page
        last := max 1 ((total + perPage.toNat - 1) / perPage.toNat) }

end Query

end FluentSql
