import FluentSql.Query.Builder
import FluentSql.Query.Filter

/-! # Fluent calls as data

A query is built by a sequence of calls.  A `QueryCall` is one of them with its arguments, and
`Query.build` carries out a sequence, from the first call to the last.  Shorter calls such as
`QueryCall.leftJoin` are some of these with arguments that they fix. -/

namespace FluentSql

/-- A call on a query. -/
inductive QueryCall where
  | select (items : List SelectItem)
  | addSelect (items : List SelectItem)
  | addSelectDictionary (dictionary field : String) (key : Value) (aliasName : Option Identifier)
  | setFrom (f : FromClause)
  | setAlias (aliasName : Identifier)
  | setFinal (isFinal : Bool)
  | setSample (part : Binary64)
  | setArrayJoin (array : ColumnSource) (isLeft : Bool)
  | addJoin (j : Join)
  | addJoinUsing (j : Join) (strictness : Option JoinStrictness) (kind : Option JoinKind)
      (columns : List Identifier)
  | addCondition (s : Section) (c : Conjunction) (x : Condition)
  | groupBy (items : List SelectItem)
  | addGroupBy (items : List SelectItem)
  | addOrder (item : SelectItem) (direction : Option Direction) (collation : Option String)
  | setLimit (l : RowLimit)
  | setLimitBy (count : UInt64) (items : List SelectItem)
  | addUnion (other : Option Query)
  | addSibling (other : Query)
  | setFormat (f : Format)
  | attach (t : ExternalTable)
  | setSetting (name : String) (v : SettingValue)
  | onCluster (cluster : String)

namespace Query

/-- The query after a call. -/
def call (q : Query) : QueryCall → Query
  | .select items => q.select items
  | .addSelect items => q.addSelect items
  | .addSelectDictionary dictionary field key aliasName =>
      q.addSelectDictionary dictionary field key aliasName
  | .setFrom f => q.setFrom f
  | .setAlias aliasName => q.setAlias aliasName
  | .setFinal isFinal => q.setFinal isFinal
  | .setSample part => q.setSample part
  | .setArrayJoin array isLeft => q.setArrayJoin array isLeft
  | .addJoin j => q.addJoin j
  | .addJoinUsing j strictness kind columns => q.addJoinUsing j strictness kind columns
  | .addCondition s c x => q.addCondition s c x
  | .groupBy items => q.groupBy items
  | .addGroupBy items => q.addGroupBy items
  | .addOrder item direction collation => q.addOrder item direction collation
  | .setLimit l => q.setLimit l
  | .setLimitBy count items => q.setLimitBy count items
  | .addUnion other => q.addUnion other
  | .addSibling other => q.addSibling other
  | .setFormat f => q.setFormat f
  | .attach t => q.attach t
  | .setSetting name v => q.setSetting name v
  | .onCluster cluster => q.onCluster cluster

/-- The query that a sequence of calls builds. -/
def build (calls : List QueryCall) : Query := calls.foldl call {}

end Query

/-! ### Calls with fixed arguments -/

namespace QueryCall

/-- Reads a table. -/
def fromTable (t : TableSource) : QueryCall := .setFrom (FromClause.setTable {} t)

/-- Reads a table under an alias. -/
def fromAs (t : TableSource) (aliasName : Identifier) : QueryCall :=
  .setFrom ((FromClause.setTable {} t).setAlias aliasName)

/-- `ARRAY JOIN`. -/
def arrayJoin (array : ColumnSource) : QueryCall := .setArrayJoin array false

/-- `LEFT ARRAY JOIN`. -/
def leftArrayJoin (array : ColumnSource) : QueryCall := .setArrayJoin array true

/-- A join on common columns, of a given strictness and kind. -/
def joinUsing (s : JoinStrictness) (k : JoinKind) (j : Join) (columns : List Identifier) :
    QueryCall :=
  .addJoinUsing j (some s) (some k) columns

def leftJoin : Join → List Identifier → QueryCall := joinUsing .all .left

def innerJoin : Join → List Identifier → QueryCall := joinUsing .all .inner

def anyLeftJoin : Join → List Identifier → QueryCall := joinUsing .any .left

def allLeftJoin : Join → List Identifier → QueryCall := joinUsing .all .left

def anyInnerJoin : Join → List Identifier → QueryCall := joinUsing .any .inner

def allInnerJoin : Join → List Identifier → QueryCall := joinUsing .all .inner

/-- Sorts by an item in a direction. -/
def orderBy (item : SelectItem) (d : Direction) : QueryCall := .addOrder item (some d) none

def orderByAsc (item : SelectItem) : QueryCall := orderBy item .asc

def orderByDesc (item : SelectItem) : QueryCall := orderBy item .desc

/-- Sorts by an item in a direction, as a collation has it. -/
def orderByCollate (item : SelectItem) (d : Direction) (collation : String) : QueryCall :=
  .addOrder item (some d) (some collation)

/-- Sorts by a piece of SQL, without a direction. -/
def orderByRaw (sql : String) : QueryCall := .addOrder (.named (.value (.raw sql))) none none

/-- `LIMIT` without an offset. -/
def limit (count : UInt64) : QueryCall := .setLimit { count := count }

/-- `LIMIT` with an offset. -/
def limitOffset (count offset : UInt64) : QueryCall :=
  .setLimit { count := count, offset := some offset }

/-- Adds the condition that a method makes of its arguments; nothing if it does not take such. -/
def filter? (m : FilterMethod) (x : FilterArguments) : Option QueryCall :=
  (m.kind.condition? x).map (.addCondition m.clause m.conjunction)

end QueryCall

end FluentSql
