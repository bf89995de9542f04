import FluentSql.Query.Builder

/-! # Counting the rows of a query

`countOf` derives the query whose answer tells how many rows a query has.  It selects the count in
place of the columns, and drops what does not change the number: the window on the rows, and the
order unless there are groups.  Where a union or a LIMIT BY clause decides which rows there are,
the count is taken over the query as a table, and what is sent along moves to the outside. -/

namespace FluentSql

namespace Query

/-- The column that counts the rows, or the values of a column that are not null. -/
def countColumn (column : Identifier) : Column :=
  let count :=
    if column.raw = "*" then Column.apply {} .count
    else .named (.value (.raw ("count(" ++ column.quoted ++ ")")))
  count.setAlias ⟨"count"⟩

/-- The query without what never changes the number of its rows. -/
def forCounting (q : Query) : Query := { q with limit := none, siblings := [] }

/-- The query that counts the rows of `q` by a column. -/
def countOf (q : Query) (column : Identifier) : Query :=
  let inner := q.forCounting
  if inner.unions.isEmpty && inner.limitBy.isNone then
    { inner with
      columns := [countColumn column]
      orders := if inner.groups.isEmpty then [] else inner.orders }
  else
    { columns := [countColumn column]
      fromClause := some
        { table := some (.query
            { inner with orders := [], tables := KeyMap.empty, format := none }) }
      tables := inner.tables
      settings := inner.settings
      format := inner.format }

/-- The query that counts the rows of `q`. -/
def countQuery (q : Query) : Query := q.countOf ⟨"*"⟩

end Query

end FluentSql
