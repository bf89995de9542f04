import FluentSql.Literal.Printer
import FluentSql.Query.Basic
import FluentSql.Text.Blank

/-! # Clauses without nested queries

The text of the parts of a statement that hold no query: function pipelines, aliases, row
windows, and conditions once their sides are text. -/

namespace FluentSql

/-! ### Columns -/

/-- The function around the text `inner`.  A product after a sum puts the sum in parentheses. -/
def ColumnFunction.apply (previous : Option ColumnFunction) (inner : String) :
    ColumnFunction → String
  | sum => "sum(" ++ inner ++ ")"
  | round decimals => "round(" ++ inner ++ ", " ++ toString decimals.toInt ++ ")"
  | plus v => inner ++ " + " ++ v.sql
  | multiply v =>
      match previous with
      | some (plus _) => "(" ++ inner ++ ") * " ++ v.sql
      | _ => inner ++ " * " ++ v.sql
  | runningDifference => "runningDifference(" ++ inner ++ ")"
  | count => "count()"
  | distinct => "DISTINCT " ++ inner
  | sumIf op v => "sumIf(" ++ inner ++ ", " ++ op.token ++ " " ++ v.sql ++ ")"

/-- A pipeline of functions around the text `inner`, where `previous` came before the first. -/
def ColumnFunction.applyAll (previous : Option ColumnFunction) (inner : String) :
    List ColumnFunction → String
  | [] => inner
  | f :: fs => applyAll (some f) (f.apply previous inner) fs

/-- The text with an alias behind it; nothing has no alias. -/
def aliased (sql : String) : Option Identifier → String
  | some aliasName => if sql = "" then "" else sql ++ " AS " ++ aliasName.quoted
  | none => sql

/-- The list behind SELECT: the columns that are not empty, or `*` when there is none. -/
def selectList (columns : List String) : String :=
  match columns.filter (· ≠ "") with
  | [] => "*"
  | columns => Text.commaList columns

/-! ### Limits -/

/-- The LIMIT clause. -/
def RowLimit.sql (l : RowLimit) : String :=
  match l.offset with
  | some offset => "LIMIT " ++ toString offset.toNat ++ ", " ++ toString l.count.toNat
  | none => "LIMIT " ++ toString l.count.toNat

/-! ### Clauses from the texts of their parts -/

/-- The SAMPLE clause. -/
def sampleClause : Option Binary64 → String
  | some x => "SAMPLE " ++ x.sqlText
  | none => ""

/-- The GROUP BY clause: nothing when the grouping is given up or no column has text. -/
def groupClause : Option (List String) → String
  | some columns => Text.clause "GROUP BY" (Text.commaList (columns.filter (· ≠ "")))
  | none => ""

/-- The ORDER BY clause, with every entry, whether it has text or not. -/
def orderClause (entries : List String) : String := "ORDER BY " ++ Text.commaList entries

/-- The ORDER BY clause of a query, which may have no entry. -/
def orderClauseOrNothing (entries : List String) : String :=
  if entries = [] then "" else orderClause entries

/-- An entry of the ORDER BY clause from the text of its column. -/
def orderText (column : String) (direction : Option Direction) (collation : Option String) :
    String :=
  let directed :=
    match direction with
    | some d => column ++ " " ++ d.token
    | none => column
  match collation with
  | some c => directed ++ " COLLATE " ++ Text.quote c
  | none => directed

/-- The LIMIT clause of a query that has one. -/
def limitClause : Option RowLimit → String
  | some l => l.sql
  | none => ""

/-- The queries of a union, each behind its keywords. -/
def unionClause (queries : List String) : String :=
  " ".intercalate (queries.map ("UNION ALL " ++ ·))

/-- The FORMAT clause. -/
def formatClause : Option Format → String
  | some f => "FORMAT " ++ f.token
  | none => ""

/-! ### Conditions -/

/-- A condition from the texts of its sides.  The complement of a range wraps the whole relation. -/
def relation (first : String) (operator : Option Operator) (second : String) : String :=
  match operator with
  | some .notBetween => Text.words ["NOT (", first, Operator.between.token, second, ")"]
  | some op => Text.words [first, op.token, second]
  | none => Text.words [first, second]

/-- Conditions one after the other.  Those without text are left out, and each but the first has
its conjunction in front. -/
def linked (conditions : List (Conjunction × String)) : String :=
  match conditions.filter (·.2 ≠ "") with
  | [] => ""
  | c :: cs => Text.words (c.2 :: cs.flatMap fun d => [d.1.token, d.2])

/-! ### Tables -/

/-- The FROM clause from the text of its table. -/
def fromText (table : String) (aliasName : Option Identifier) (isFinal : Bool) : String :=
  let named :=
    match aliasName with
    | some a => "FROM " ++ table ++ " AS " ++ a.quoted
    | none => "FROM " ++ table
  if isFinal then named ++ " FINAL" else named

/-- The ARRAY JOIN clause from the text of its array. -/
def arrayJoinText (isLeft : Bool) (array : String) : String :=
  (if isLeft then "LEFT ARRAY JOIN " else "ARRAY JOIN ") ++ array

/-! ### Joins -/

/-- Checks the parts of a join: parts that it lacks count before keys of both kinds. -/
def Join.check (hasTable hasUsing hasOn : Bool) : Except QueryError Unit :=
  match (if hasTable then [] else [JoinPart.table]) ++
      (if hasUsing || hasOn then [] else [JoinPart.keys]) with
  | [] => if hasUsing && hasOn then .error .ambiguousJoinKeys else .ok ()
  | missing => .error (.wrongJoin missing)

/-- The keys of a join: its common columns, or else its conditions. -/
def joinKeys (usingColumns : List Identifier) (conditions : List (Conjunction × String)) :
    String :=
  if usingColumns ≠ [] then "USING " ++ Identifier.quotedList usingColumns
  else "ON " ++ linked conditions

/-- A join from the texts of its table and its keys. -/
def joinText (isGlobal : Bool) (strictness : Option JoinStrictness) (kind : Option JoinKind)
    (table : String) (aliasName : Option Identifier) (keys : String) : String :=
  Text.fragments
    [if isGlobal then "GLOBAL" else "", (strictness.map JoinStrictness.token).getD "",
     (kind.map JoinKind.token).getD "", "JOIN", table,
     (aliasName.map fun a => "AS " ++ a.quoted).getD "", keys]

/-- Joins one after the other. -/
def joinClauses (joins : List String) : String := " ".intercalate joins

/-! ### Faults -/

/-- Fails with the refused argument that was recorded, if there is one. -/
def ArgumentFault.check : Option ArgumentFault → Except QueryError Unit
  | some f => .error (.invalidArgument f)
  | none => .ok ()

end FluentSql
