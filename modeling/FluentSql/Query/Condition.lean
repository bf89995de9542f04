import FluentSql.Literal.Printer
import FluentSql.Query.Basic

/-! # Conditions of a query

Three clauses of a query hold conditions: PREWHERE, WHERE and HAVING (`Section`).  A `Condition` is
one thing to add to such a clause, and `Query.addCondition` adds it.  What is added does not
depend on the clause, apart from groups, which take over the same clause of another query.

An empty list is special: nothing is in it, so its membership is written as a relation that never
holds, and its complement adds no condition.  A text on the right of a membership operator stands
for an attached table when there is one of that name. -/

namespace FluentSql

/-- A clause that holds conditions. -/
inductive Section where
  | preWheres
  | wheres
  | havings
deriving DecidableEq, Repr

/-- One thing to add to a clause. -/
inductive Condition where
  | compare (first : Operand) (op : Operator) (second : Operand)
  /-- Equality with a value, or membership in a list. -/
  | equal (first second : Operand)
  | raw (sql : String)
  | member (first : Operand) (op : Operator) (values : Operand)
  | range (first : Operand) (op : Operator) (low high : Operand)
  /-- The conditions of another query in parentheses, or that query itself when it reads a table or
  selects something. -/
  | group (q : Query)
  /-- A comparison of a field of a dictionary entry. -/
  | dictionary (name field : String) (key : Value) (op : Operator) (second : Operand)

namespace Operand

/-- The elements of a list of values. -/
def elements? : Operand → Option (List Value)
  | tuple t => some t.elements
  | value (.array items) => some items
  | _ => none

/-- Whether the side is a list of values. -/
def isList (o : Operand) : Bool := o.elements?.isSome

/-- The side that is named by a text. -/
def ofName (name : String) : Operand := value (.identifier ⟨name⟩)

end Operand

namespace Predicate

/-- A relation between two sides. -/
def compare (c : Conjunction) (first : Operand) (op : Operator) (second : Operand) : Predicate :=
  { first := first, operator := some op, second := some second, conjunction := c }

/-- One side alone. -/
def single (c : Conjunction) (first : Operand) : Predicate := { first := first, conjunction := c }

/-- A relation that never holds. -/
def never (c : Conjunction) : Predicate := compare c (.value (.int 0)) .eq (.value (.int 1))

/-- The two bounds of a range. -/
def bounds (low high : Operand) : Predicate := compare .and low .and high

end Predicate

namespace Query

/-- The conditions of a clause. -/
def conditions (q : Query) : Section → List Predicate
  | .preWheres => q.preWheres
  | .wheres => q.wheres
  | .havings => q.havings

/-- The query with one more condition in a clause. -/
def pushCondition (q : Query) (s : Section) (p : Predicate) : Query :=
  match s with
  | .preWheres => { q with preWheres := q.preWheres ++ [p] }
  | .wheres => { q with wheres := q.wheres ++ [p] }
  | .havings => { q with havings := q.havings ++ [p] }

/-- The side that names an attached table when it is the text of its name. -/
def resolveTable (tables : KeyMap ExternalTable) : Operand → Operand
  | .value (.string name) =>
      if tables.contains name then .ofName name else .value (.string name)
  | o => o

/-- The membership of a side in values; nothing for the complement of an empty list. -/
def membership? (tables : KeyMap ExternalTable) (c : Conjunction) (first : Operand) (op : Operator)
    (values : Operand) : Option Predicate :=
  match values.elements? with
  | some [] => if op.isNegated then none else some (.never c)
  | some elements => some (.compare c first op (.tuple ⟨elements⟩))
  | none => some (.compare c first op (resolveTable tables values))

/-- A comparison, by the rules for membership when the operator is one of membership. -/
def comparison? (tables : KeyMap ExternalTable) (c : Conjunction) (first : Operand) (op : Operator)
    (second : Operand) : Option Predicate :=
  if op.isMembership then membership? tables c first op second
  else some (.compare c first op second)

/-- The condition that a group stands for; nothing for a group without conditions. -/
def grouped? (s : Section) (c : Conjunction) (q : Query) : Option Predicate :=
  if q.fromClause.isNone && q.columns.isEmpty then
    match q.conditions s with
    | [] => none
    | ps => some (.single c (.group ps))
  else some (.single c (.query q))

/-- The condition to record, if there is any, given the attached tables. -/
def condition? (tables : KeyMap ExternalTable) (s : Section) (c : Conjunction) :
    Condition → Option Predicate
  | .compare first op second => comparison? tables c first op second
  | .equal first second =>
      comparison? tables c first (if second.isList then .isIn else .eq) second
  | .raw sql => some (.single c (.value (.raw sql)))
  | .member first op values => membership? tables c first op values
  | .range first op low high => some (.compare c first op (.predicate (.bounds low high)))
  | .group q => grouped? s c q
  | .dictionary name field key op second =>
      comparison? tables c (.value (.raw (dictionaryLookup name field key))) op second

/-- The query with a condition in one of its clauses. -/
def addCondition (q : Query) (s : Section) (c : Conjunction) (x : Condition) : Query :=
  match condition? q.tables s c x with
  | some p => q.pushCondition s p
  | none => q

end Query

end FluentSql
