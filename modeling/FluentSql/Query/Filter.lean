import FluentSql.Query.Condition

/-! # Families of filter calls

PREWHERE, WHERE and HAVING have the same calls.  A `Filter` is one of them without the clause it is
made for, and `Filter.condition` is what it adds.  A text on the left of an operator names a column;
on the right it is a literal, other than in a range between columns.

A `FilterCall` makes one filter or opens a group.  The calls of a group are made for the same
clause, on a query of its own (`Query.filter`).

Each clause has a family of methods for these calls (`FilterFamily`), which are found by their names
(`FilterMethod.named?`).  There are two of each kind: one links what it adds by AND, the other one
by OR. -/

namespace FluentSql

/-- An argument of a filter. -/
inductive Argument where
  | text (s : String)
  | side (o : Operand)

namespace Argument

/-- The side for an argument that is a column. -/
def asColumn : Argument → Operand
  | text s => .ofName s
  | side o => o

/-- The side for an argument that is a value. -/
def asValue : Argument → Operand
  | text s => .value (.string s)
  | side o => o

end Argument

/-- A call that filters by one condition. -/
inductive Filter where
  | base (first : Argument) (op : Operator) (second : Argument)
  /-- Equality with a value, or membership in a list. -/
  | eq (first second : Argument)
  | raw (sql : String)
  | isIn (first values : Argument)
  | notIn (first values : Argument)
  | globalIn (first values : Argument)
  | globalNotIn (first values : Argument)
  | between (first low high : Argument)
  | notBetween (first low high : Argument)
  | betweenColumns (first low high : Argument)
  | notBetweenColumns (first low high : Argument)
  /-- A comparison of a field of a dictionary entry. -/
  | dictionary (name field : String) (key : Value) (op : Operator) (second : Argument)

/-- The condition that a filter adds. -/
def Filter.condition : Filter → Condition
  | base first op second => .compare first.asColumn op second.asValue
  | eq first second => .equal first.asColumn second.asValue
  | raw sql => .raw sql
  | isIn first values => .member first.asColumn .isIn values.asValue
  | notIn first values => .member first.asColumn .notIn values.asValue
  | globalIn first values => .member first.asColumn .globalIn values.asValue
  | globalNotIn first values => .member first.asColumn .globalNotIn values.asValue
  | between first low high => .range first.asColumn .between low.asValue high.asValue
  | notBetween first low high => .range first.asColumn .notBetween low.asValue high.asValue
  | betweenColumns first low high => .range first.asColumn .between low.asColumn high.asColumn
  | notBetweenColumns first low high =>
      .range first.asColumn .notBetween low.asColumn high.asColumn
  | dictionary name field key op second => .dictionary name field key op second.asValue

/-- A call that filters, linked by a conjunction to what stands before it. -/
inductive FilterCall where
  | single (c : Conjunction) (f : Filter)
  | group (c : Conjunction) (calls : List FilterCall)

namespace Query

mutual

/-- The query after a call for one of its clauses. -/
def filter (s : Section) (q : Query) : FilterCall → Query
  | .single c f => q.addCondition s c f.condition
  | .group c calls => q.addCondition s c (.group (filterAll s {} calls))

/-- The query after calls for one of its clauses, from the first to the last. -/
def filterAll (s : Section) (q : Query) : List FilterCall → Query
  | [] => q
  | call :: calls => filterAll s (filter s q call) calls

end

end Query

/-! ### Methods -/

/-- A kind of method that filters, with the operator that the method stands for. -/
inductive FilterKind where
  | base
  | eq
  | raw
  | membership (op : Operator)
  | between (op : Operator)
  | betweenColumns (op : Operator)
  | group
  | dictionary
deriving DecidableEq, Repr

/-- The arguments of a method that filters.  A group is given by the query that its calls make. -/
inductive FilterArguments where
  | comparison (first : Argument) (op : Operator) (second : Argument)
  | sides (first second : Argument)
  | raw (sql : String)
  | range (first low high : Argument)
  | group (q : Query)
  | dictionary (name field : String) (key : Value) (op : Operator) (second : Argument)

/-- The condition that a method adds for its arguments. -/
def FilterKind.condition? : FilterKind → FilterArguments → Option Condition
  | base, .comparison first op second => some (.compare first.asColumn op second.asValue)
  | eq, .sides first second => some (.equal first.asColumn second.asValue)
  | raw, .raw sql => some (.raw sql)
  | membership op, .sides first values => some (.member first.asColumn op values.asValue)
  | between op, .range first low high => some (.range first.asColumn op low.asValue high.asValue)
  | betweenColumns op, .range first low high =>
      some (.range first.asColumn op low.asColumn high.asColumn)
  | group, .group q => some (.group q)
  | dictionary, .dictionary name field key op second =>
      some (.dictionary name field key op second.asValue)
  | _, _ => none

/-- A method that filters. -/
structure FilterMethod where
  name : String
  clause : Section
  conjunction : Conjunction
  kind : FilterKind
deriving DecidableEq, Repr

/-- The methods for a clause: for each kind the names of the one that links by AND and of the one
that links by OR. -/
structure FilterFamily where
  clause : Section
  names : List (FilterKind × String × String)

namespace FilterFamily

/-- The methods for PREWHERE. -/
def preWhere : FilterFamily where
  clause := .preWheres
  names :=
    [(.base, "pre_where", "or_pre_where"),
     (.eq, "pre_where_eq", "or_pre_where_eq"),
     (.raw, "pre_where_raw", "or_pre_where_raw"),
     (.membership .isIn, "pre_where_in", "or_pre_where_in"),
     (.membership .notIn, "pre_where_not_in", "or_pre_where_not_in"),
     (.membership .globalIn, "pre_where_global_in", "or_pre_where_global_in"),
     (.membership .globalNotIn, "pre_where_global_not_in", "or_pre_where_global_not_in"),
     (.between .between, "pre_where_between", "or_pre_where_between"),
     (.between .notBetween, "pre_where_not_between", "or_pre_where_not_between"),
     (.betweenColumns .between, "pre_where_between_columns", "or_pre_where_between_columns"),
     (.betweenColumns .notBetween, "pre_where_not_between_columns",
       "or_pre_where_not_between_columns"),
     (.group, "pre_where_group", "or_pre_where_group"),
     (.dictionary, "pre_where_dict", "or_pre_where_dict")]

/-- The methods for WHERE. -/
def filterWhere : FilterFamily where
  clause := .wheres
  names :=
    [(.base, "where_", "or_where"),
     (.eq, "where_eq", "or_where_eq"),
     (.raw, "where_raw", "or_where_raw"),
     (.membership .isIn, "where_in", "or_where_in"),
     (.membership .notIn, "where_not_in", "or_where_not_in"),
     (.membership .globalIn, "where_global_in", "or_where_global_in"),
     (.membership .globalNotIn, "where_global_not_in", "or_where_global_not_in"),
     (.between .between, "where_between", "or_where_between"),
     (.between .notBetween, "where_not_between", "or_where_not_between"),
     (.betweenColumns .between, "where_between_columns", "or_where_between_columns"),
     (.betweenColumns .notBetween, "where_not_between_columns", "or_where_not_between_columns"),
     (.group, "where_group", "or_where_group"),
     (.dictionary, "where_dict", "or_where_dict")]

/-- The methods for HAVING. -/
def having : FilterFamily where
  clause := .havings
  names :=
    [(.base, "having", "or_having"),
     (.eq, "having_eq", "or_having_eq"),
     (.raw, "having_raw", "or_having_raw"),
     (.membership .isIn, "having_in", "or_having_in"),
     (.membership .notIn, "having_not_in", "or_having_not_in"),
     (.membership .globalIn, "having_global_in", "or_having_global_in"),
     (.membership .globalNotIn, "having_global_not_in", "or_having_global_not_in"),
     (.between .between, "having_between", "or_having_between"),
     (.between .notBetween, "having_not_between", "or_having_not_between"),
     (.betweenColumns .between, "having_between_columns", "or_having_between_columns"),
     (.betweenColumns .notBetween, "having_not_between_columns", "or_having_not_between_columns"),
     (.group, "having_group", "or_having_group"),
     (.dictionary, "having_dict", "or_having_dict")]

/-- The methods of the family. -/
def methods (family : FilterFamily) : List FilterMethod :=
  family.names.flatMap fun row =>
    [⟨row.2.1, family.clause, .and, row.1⟩, ⟨row.2.2, family.clause, .or, row.1⟩]

/-- The method of the family with the given name. -/
def named? (family : FilterFamily) (name : String) : Option FilterMethod :=
  family.methods.find? (·.name = name)

end FilterFamily

/-- The method with the given name, for any clause. -/
def FilterMethod.named? (name : String) : Option FilterMethod :=
  [FilterFamily.preWhere, FilterFamily.filterWhere, FilterFamily.having].findSome? (·.named? name)

end FluentSql
