import FluentSql.Query.Column
import FluentSql.Query.Condition
import FluentSql.Query.Table

/-! # Building queries

Each function changes one part of a query and leaves the others.  None fails: an argument that is
refused is recorded, and compiling the query reports it. -/

namespace FluentSql

namespace Query

/-! ### Columns -/

/-- The columns of the items, or all columns when there is no item. -/
def columnsOrStar (withAlias : Bool) (items : List SelectItem) : List Column :=
  match items with
  | [] => [.star]
  | items => items.map (SelectItem.toColumn withAlias)

/-- The query that selects the items; no item stands for all columns. -/
def select (q : Query) (items : List SelectItem) : Query :=
  { q with columns := columnsOrStar true items }

/-- The query that selects the items as well. -/
def addSelect (q : Query) (items : List SelectItem) : Query :=
  { q with columns := q.columns ++ items.map (SelectItem.toColumn true) }

/-- The query that selects a field of a dictionary entry as well, under the alias or else under the
name of the field. -/
def addSelectDictionary (q : Query) (dictionary field : String) (key : Value)
    (aliasName : Option Identifier) : Query :=
  let lookup := Column.named (.value (.raw (dictionaryLookup dictionary field key)))
  { q with columns := q.columns ++ [lookup.setAlias (aliasName.getD ⟨field⟩)] }

/-! ### Tables -/

/-- The query with another FROM clause. -/
def setFrom (q : Query) (f : FromClause) : Query := { q with fromClause := some f }

/-- The query that reads a table. -/
def fromTable (q : Query) (t : TableSource) : Query := q.setFrom { table := some t }

/-- The query with another alias for what it reads. -/
def setAlias (q : Query) (aliasName : Identifier) : Query :=
  q.setFrom ((q.fromClause.getD {}).setAlias aliasName)

/-- The query that reads merged rows or rows as stored. -/
def setFinal (q : Query) (isFinal : Bool) : Query :=
  q.setFrom ((q.fromClause.getD {}).setFinal isFinal)

/-- The query on a part of the rows. -/
def setSample (q : Query) (part : Binary64) : Query := { q with sample := some part }

/-- The query with a row for each item of an array. -/
def setArrayJoin (q : Query) (array : ColumnSource) (isLeft : Bool) : Query :=
  { q with arrayJoin := some ⟨array, isLeft⟩ }

/-- The query with one more join. -/
def addJoin (q : Query) (j : Join) : Query := { q with joins := q.joins ++ [j] }

/-- The query with one more join, which is given a strictness, a kind and more common columns. -/
def addJoinUsing (q : Query) (j : Join) (strictness : Option JoinStrictness)
    (kind : Option JoinKind) (columns : List Identifier) : Query :=
  q.addJoin
    ({ j with strictness := strictness.or j.strictness, kind := kind.or j.kind }.addUsing columns)

/-! ### Groups and order -/

/-- The query grouped by the items; no item stands for all columns. -/
def groupBy (q : Query) (items : List SelectItem) : Query :=
  { q with groups := columnsOrStar false items }

/-- The query grouped by the items as well. -/
def addGroupBy (q : Query) (items : List SelectItem) : Query :=
  { q with groups := q.groups ++ items.map (SelectItem.toColumn false) }

/-- The query sorted by an item after what it is sorted by. -/
def addOrder (q : Query) (item : SelectItem) (direction : Option Direction)
    (collation : Option String) : Query :=
  { q with orders := q.orders ++ [⟨item.toColumn false, direction, collation⟩] }

/-! ### Limits -/

/-- The query with a window on its rows. -/
def setLimit (q : Query) (l : RowLimit) : Query := { q with limit := some l }

/-- The query with at most so many rows for each value of the items. -/
def setLimitBy (q : Query) (count : UInt64) (items : List SelectItem) : Query :=
  { q with limitBy := some ⟨{ count := count }, items.map (SelectItem.toColumn false)⟩ }

/-! ### Other queries -/

/-- The query followed by another one in a union.  Nothing in place of a query is refused. -/
def addUnion (q : Query) : Option Query → Query
  | some other => { q with unions := q.unions ++ [other] }
  | none => { q with fault := q.fault.or (some .blankUnion) }

/-- The query with another one to run at the same time. -/
def addSibling (q : Query) (other : Query) : Query := { q with siblings := q.siblings ++ [other] }

mutual

/-- The query and all that run with it, each before its own siblings. -/
def batch : Query → List Query
  | ⟨columns, fromClause, sample, arrayJoin, joins, preWheres, wheres, groups, havings, orders,
      limitBy, limit, unions, format, siblings, tables, settings, cluster, fault⟩ =>
      ⟨columns, fromClause, sample, arrayJoin, joins, preWheres, wheres, groups, havings, orders,
        limitBy, limit, unions, format, siblings, tables, settings, cluster, fault⟩ ::
        batchList siblings

/-- The batches of several queries, one after the other. -/
def batchList : List Query → List Query
  | [] => []
  | q :: qs => batch q ++ batchList qs

end

/-! ### What is sent along -/

/-- The query with its rows in a format. -/
def setFormat (q : Query) (f : Format) : Query := { q with format := some f }

/-- The query with one more attached table, in place of one with the same name. -/
def attach (q : Query) (t : ExternalTable) : Query := { q with tables := q.tables.insert t.name t }

/-- The query with a setting. -/
def setSetting (q : Query) (name : String) (v : SettingValue) : Query :=
  { q with settings := q.settings.set name v }

/-- The query for all servers of a cluster. -/
def onCluster (q : Query) (cluster : String) : Query := { q with cluster := some cluster }

end Query

end FluentSql
