import FluentSql.Query.Basic

/-! # Building columns

Columns are built from a source by adding functions, from the inside out, and an alias.  A
`SelectItem` is what the clauses of a query accept for a column. -/

namespace FluentSql

namespace ColumnSource

/-- The source that is named by a text. -/
def ofName (name : String) : ColumnSource := .value (.identifier ⟨name⟩)

/-- The identifier, if the source is one. -/
def identifier? : ColumnSource → Option Identifier
  | value (.identifier id) => some id
  | _ => none

end ColumnSource

namespace Column

/-- The column of a source. -/
def named (source : ColumnSource) : Column := { source := some source }

/-- The column of all columns. -/
def star : Column := named (.ofName "*")

/-- The column with another source. -/
def setSource (c : Column) (source : ColumnSource) : Column := { c with source := some source }

/-- The column with another alias. -/
def setAlias (c : Column) (aliasName : Identifier) : Column :=
  { c with aliasName := some aliasName }

/-- The column with one more function around it. -/
def apply (c : Column) (f : ColumnFunction) : Column := { c with functions := c.functions ++ [f] }

/-- The sum of a source. -/
def sumOf (c : Column) (source : ColumnSource) : Column := (c.setSource source).apply .sum

/-- The column of a query.  A name that the column had becomes its alias when it has none. -/
def ofQuery (c : Column) (q : Query) : Column :=
  { c with
    source := some (.query q)
    aliasName := c.aliasName.or (c.source.bind ColumnSource.identifier?) }

end Column

/-- A column as given to a clause. -/
inductive SelectItem where
  | named (source : ColumnSource)
  | aliased (source : ColumnSource) (aliasName : Identifier)
  | configured (c : Column)
  | subQuery (q : Query)

/-- The column of an item.  Without aliases the alias that the item adds is dropped; that of a
configured column stays. -/
def SelectItem.toColumn (withAlias : Bool) : SelectItem → Column
  | named source => Column.named source
  | aliased source aliasName =>
      if withAlias then (Column.named source).setAlias aliasName else Column.named source
  | configured c => c
  | subQuery q => Column.ofQuery {} q

end FluentSql
