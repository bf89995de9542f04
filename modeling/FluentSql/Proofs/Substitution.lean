import FluentSql.Query.Basic

/-! # Substitution of literals

`mapStrings f` replaces what every literal of a query stands for, wherever it stands: in columns
and their functions, in tables, joins, conditions, groups, collations and nested queries.  Nothing
else changes.  A query is free of raw SQL (`isRawFree`) when no value and no table in it is written
as it is. -/

namespace FluentSql

/-! ### Values and column functions -/

namespace Value

mutual

/-- The value with `f` applied to its literals. -/
def mapStrings (f : String → String) : Value → Value
  | .string s => .string (f s)
  | .array items => .array (mapStringsList f items)
  | v => v

def mapStringsList (f : String → String) : List Value → List Value
  | [] => []
  | v :: vs => v.mapStrings f :: mapStringsList f vs

end

mutual

/-- Whether no raw SQL is in the value. -/
def isRawFree : Value → Bool
  | .raw _ => false
  | .array items => isRawFreeList items
  | _ => true

def isRawFreeList : List Value → Bool
  | [] => true
  | v :: vs => v.isRawFree && isRawFreeList vs

end

end Value

namespace ColumnFunction

def mapStrings (f : String → String) : ColumnFunction → ColumnFunction
  | plus v => plus (v.mapStrings f)
  | multiply v => multiply (v.mapStrings f)
  | sumIf op v => sumIf op (v.mapStrings f)
  | g => g

def isRawFree : ColumnFunction → Bool
  | plus v | multiply v | sumIf _ v => v.isRawFree
  | _ => true

end ColumnFunction

/-! ### Queries -/

mutual

def ColumnSource.mapStrings (f : String → String) : ColumnSource → ColumnSource
  | .value v => .value (v.mapStrings f)
  | .column c => .column (c.mapStrings f)
  | .query q => .query (q.mapStrings f)

def ColumnSource.mapStringsOption (f : String → String) : Option ColumnSource → Option ColumnSource
  | none => none
  | some s => some (s.mapStrings f)

def Column.mapStrings (f : String → String) : Column → Column
  | ⟨source, aliasName, functions⟩ =>
      ⟨ColumnSource.mapStringsOption f source, aliasName,
        functions.map (ColumnFunction.mapStrings f)⟩

def Column.mapStringsList (f : String → String) : List Column → List Column
  | [] => []
  | c :: cs => c.mapStrings f :: Column.mapStringsList f cs

def TableSource.mapStrings (f : String → String) : TableSource → TableSource
  | .query q => .query (q.mapStrings f)
  | .name id => .name id
  | .raw sql => .raw sql

def TableSource.mapStringsOption (f : String → String) : Option TableSource → Option TableSource
  | none => none
  | some t => some (t.mapStrings f)

def FromClause.mapStringsOption (f : String → String) : Option FromClause → Option FromClause
  | none => none
  | some ⟨table, aliasName, isFinal⟩ =>
      some ⟨TableSource.mapStringsOption f table, aliasName, isFinal⟩

def ArrayJoin.mapStringsOption (f : String → String) : Option ArrayJoin → Option ArrayJoin
  | none => none
  | some ⟨array, isLeft⟩ => some ⟨array.mapStrings f, isLeft⟩

def Join.mapStrings (f : String → String) : Join → Join
  | ⟨table, strictness, kind, aliasName, isGlobal, usingColumns, onConditions⟩ =>
      ⟨TableSource.mapStringsOption f table, strictness, kind, aliasName, isGlobal, usingColumns,
        Predicate.mapStringsList f onConditions⟩

def Join.mapStringsList (f : String → String) : List Join → List Join
  | [] => []
  | j :: js => j.mapStrings f :: Join.mapStringsList f js

def Operand.mapStrings (f : String → String) : Operand → Operand
  | .value v => .value (v.mapStrings f)
  | .tuple ⟨vs⟩ => .tuple ⟨Value.mapStringsList f vs⟩
  | .column c => .column (c.mapStrings f)
  | .group ps => .group (Predicate.mapStringsList f ps)
  | .predicate p => .predicate (p.mapStrings f)
  | .query q => .query (q.mapStrings f)

def Operand.mapStringsOption (f : String → String) : Option Operand → Option Operand
  | none => none
  | some o => some (o.mapStrings f)

def Predicate.mapStrings (f : String → String) : Predicate → Predicate
  | ⟨first, operator, second, conjunction⟩ =>
      ⟨first.mapStrings f, operator, Operand.mapStringsOption f second, conjunction⟩

def Predicate.mapStringsList (f : String → String) : List Predicate → List Predicate
  | [] => []
  | p :: ps => p.mapStrings f :: Predicate.mapStringsList f ps

/-- A collation is written as a literal. -/
def Order.mapStrings (f : String → String) : Order → Order
  | ⟨column, direction, collation⟩ => ⟨column.mapStrings f, direction, collation.map f⟩

def Order.mapStringsList (f : String → String) : List Order → List Order
  | [] => []
  | o :: os => o.mapStrings f :: Order.mapStringsList f os

def LimitBy.mapStringsOption (f : String → String) : Option LimitBy → Option LimitBy
  | none => none
  | some ⟨limit, columns⟩ => some ⟨limit, Column.mapStringsList f columns⟩

/-- The query with `f` applied to its literals. -/
def Query.mapStrings (f : String → String) : Query → Query
  | ⟨columns, fromClause, sample, arrayJoin, joins, preWheres, wheres, groups, havings, orders,
      limitBy, limit, unions, format, siblings, tables, settings, cluster, fault⟩ =>
      ⟨Column.mapStringsList f columns, FromClause.mapStringsOption f fromClause, sample,
        ArrayJoin.mapStringsOption f arrayJoin, Join.mapStringsList f joins,
        Predicate.mapStringsList f preWheres, Predicate.mapStringsList f wheres,
        Column.mapStringsList f groups, Predicate.mapStringsList f havings,
        Order.mapStringsList f orders, LimitBy.mapStringsOption f limitBy, limit,
        Query.mapStringsList f unions, format, Query.mapStringsList f siblings, tables, settings,
        cluster, fault⟩

def Query.mapStringsList (f : String → String) : List Query → List Query
  | [] => []
  | q :: qs => q.mapStrings f :: Query.mapStringsList f qs

end

mutual

def ColumnSource.isRawFree : ColumnSource → Bool
  | .value v => v.isRawFree
  | .column c => c.isRawFree
  | .query q => q.isRawFree

def ColumnSource.isRawFreeOption : Option ColumnSource → Bool
  | none => true
  | some s => s.isRawFree

def Column.isRawFree : Column → Bool
  | ⟨source, _, functions⟩ =>
      ColumnSource.isRawFreeOption source && functions.all ColumnFunction.isRawFree

def Column.isRawFreeList : List Column → Bool
  | [] => true
  | c :: cs => c.isRawFree && Column.isRawFreeList cs

def TableSource.isRawFree : TableSource → Bool
  | .name _ => true
  | .raw _ => false
  | .query q => q.isRawFree

def TableSource.isRawFreeOption : Option TableSource → Bool
  | none => true
  | some t => t.isRawFree

def FromClause.isRawFreeOption : Option FromClause → Bool
  | none => true
  | some ⟨table, _, _⟩ => TableSource.isRawFreeOption table

def ArrayJoin.isRawFreeOption : Option ArrayJoin → Bool
  | none => true
  | some ⟨array, _⟩ => array.isRawFree

def Join.isRawFree : Join → Bool
  | ⟨table, _, _, _, _, _, onConditions⟩ =>
      TableSource.isRawFreeOption table && Predicate.isRawFreeList onConditions

def Join.isRawFreeList : List Join → Bool
  | [] => true
  | j :: js => j.isRawFree && Join.isRawFreeList js

def Operand.isRawFree : Operand → Bool
  | .value v => v.isRawFree
  | .tuple ⟨vs⟩ => Value.isRawFreeList vs
  | .column c => c.isRawFree
  | .group ps => Predicate.isRawFreeList ps
  | .predicate p => p.isRawFree
  | .query q => q.isRawFree

def Operand.isRawFreeOption : Option Operand → Bool
  | none => true
  | some o => o.isRawFree

def Predicate.isRawFree : Predicate → Bool
  | ⟨first, _, second, _⟩ => first.isRawFree && Operand.isRawFreeOption second

def Predicate.isRawFreeList : List Predicate → Bool
  | [] => true
  | p :: ps => p.isRawFree && Predicate.isRawFreeList ps

def Order.isRawFree : Order → Bool
  | ⟨column, _, _⟩ => column.isRawFree

def Order.isRawFreeList : List Order → Bool
  | [] => true
  | o :: os => o.isRawFree && Order.isRawFreeList os

def LimitBy.isRawFreeOption : Option LimitBy → Bool
  | none => true
  | some ⟨_, columns⟩ => Column.isRawFreeList columns

/-- Whether no raw SQL is in the text of the query. -/
def Query.isRawFree : Query → Bool
  | ⟨columns, fromClause, _, arrayJoin, joins, preWheres, wheres, groups, havings, orders,
      limitBy, _, unions, _, _, _, _, _, _⟩ =>
      Column.isRawFreeList columns && FromClause.isRawFreeOption fromClause &&
        ArrayJoin.isRawFreeOption arrayJoin && Join.isRawFreeList joins &&
        Predicate.isRawFreeList preWheres && Predicate.isRawFreeList wheres &&
        Column.isRawFreeList groups && Predicate.isRawFreeList havings &&
        Order.isRawFreeList orders && LimitBy.isRawFreeOption limitBy &&
        Query.isRawFreeList unions

def Query.isRawFreeList : List Query → Bool
  | [] => true
  | q :: qs => q.isRawFree && Query.isRawFreeList qs

end

end FluentSql
