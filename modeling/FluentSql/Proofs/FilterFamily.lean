import FluentSql.Proofs.Grouping
import FluentSql.Query.Filter

/-! # One family of filters

What a filter becomes depends on nothing but the attached tables (`Filter.predicate?`), and what a
group becomes does not depend even on these, as no table is attached to the query of a group
(`FilterCall.predicate?`).  In neither is there a clause.  So calls leave the same conditions behind
in the clause that they are made for, whichever it is, and nothing else.

The names of methods are the same for all clauses but for the name of the clause
(`Section.methodName`), and under each name is the method for its clause, its conjunction and its
operator (`Section.named?_methodName`).  So calls by name do the same (`Query.filterAll_eq`). -/

namespace FluentSql

/-! ### What the calls become -/

/-- What a filter becomes, given the attached tables; nothing for the complement of an empty
list. -/
def Filter.predicate? (tables : KeyMap ExternalTable) (c : Conjunction) :
    Filter → Option Predicate
  | base first op second => Query.comparison? tables c first.asColumn op second.asValue
  | eq first second =>
      if second.asValue.isList then Query.membership? tables c first.asColumn .isIn second.asValue
      else some (.compare c first.asColumn .eq second.asValue)
  | raw sql => some (.single c (.value (.raw sql)))
  | isIn first values => Query.membership? tables c first.asColumn .isIn values.asValue
  | notIn first values => Query.membership? tables c first.asColumn .notIn values.asValue
  | globalIn first values => Query.membership? tables c first.asColumn .globalIn values.asValue
  | globalNotIn first values =>
      Query.membership? tables c first.asColumn .globalNotIn values.asValue
  | between first low high =>
      some (.compare c first.asColumn .between (.predicate (.bounds low.asValue high.asValue)))
  | notBetween first low high =>
      some (.compare c first.asColumn .notBetween (.predicate (.bounds low.asValue high.asValue)))
  | betweenColumns first low high =>
      some (.compare c first.asColumn .between (.predicate (.bounds low.asColumn high.asColumn)))
  | notBetweenColumns first low high =>
      some (.compare c first.asColumn .notBetween
        (.predicate (.bounds low.asColumn high.asColumn)))
  | dictionary name field key op second =>
      Query.comparison? tables c (.value (.raw (dictionaryLookup name field key))) op
        second.asValue

namespace FilterCall

mutual

/-- What a call becomes, given the attached tables; nothing for a group of calls that become
nothing. -/
def predicate? (tables : KeyMap ExternalTable) : FilterCall → Option Predicate
  | single c f => f.predicate? tables c
  | group c calls =>
      match predicates KeyMap.empty calls with
      | [] => none
      | ps => some (.single c (.group ps))

/-- What calls become, in their order. -/
def predicates (tables : KeyMap ExternalTable) : List FilterCall → List Predicate
  | [] => []
  | call :: calls => (predicate? tables call).toList ++ predicates tables calls

end

end FilterCall

/-! ### What the calls add -/

namespace Query

/-- What is recorded for a filter, in any clause. -/
theorem condition?_condition (tables : KeyMap ExternalTable) (s : Section) (c : Conjunction)
    (f : Filter) : condition? tables s c f.condition = f.predicate? tables c := by
  cases f with
  | eq first second =>
      rw [Filter.condition, Filter.predicate?, condition?]
      cases second.asValue.isList <;> rfl
  | _ => rfl

mutual

/-- A call adds what it becomes to its clause. -/
theorem filter_eq_setConditions (s : Section) (q : Query) : (call : FilterCall) →
    q.filter s call =
      q.setConditions s (q.conditions s ++ (call.predicate? q.tables).toList)
  | .single c f => by
      rw [filter, addCondition_eq q (condition?_condition q.tables s c f), FilterCall.predicate?]
  | .group c calls => by
      -- no table is attached to the query of a group, whatever is attached to `q`
      have hinside : filterAll s {} calls =
          ({} : Query).setConditions s (FilterCall.predicates KeyMap.empty calls) := by
        rw [filterAll_eq_setConditions s {} calls]
        cases s <;> rfl
      rw [filter, FilterCall.predicate?, hinside]
      exact addCondition_eq q (condition?_group q.tables s c _)

/-- Calls add what they become to their clause, one after the other. -/
theorem filterAll_eq_setConditions (s : Section) (q : Query) : (calls : List FilterCall) →
    q.filterAll s calls =
      q.setConditions s (q.conditions s ++ FilterCall.predicates q.tables calls)
  | [] => by
      rw [filterAll, FilterCall.predicates, List.append_nil, setConditions_conditions]
  | call :: calls => by
      rw [filterAll, filterAll_eq_setConditions s _ calls, filter_eq_setConditions s q call,
        tables_setConditions, conditions_setConditions, setConditions_setConditions,
        List.append_assoc, FilterCall.predicates]

end

end Query

/-! ### Calls by the names of methods -/

namespace Section

/-- The methods for the clause. -/
def family : Section → FilterFamily
  | preWheres => .preWhere
  | wheres => .filterWhere
  | havings => .having

/-- What the names of the methods for the clause have in common. -/
def stem : Section → String
  | preWheres => "pre_where"
  | wheres => "where"
  | havings => "having"

end Section

namespace Filter

/-- The kind of the methods that make a filter. -/
def kind : Filter → FilterKind
  | base .. => .base
  | eq .. => .eq
  | raw .. => .raw
  | isIn .. => .membership .isIn
  | notIn .. => .membership .notIn
  | globalIn .. => .membership .globalIn
  | globalNotIn .. => .membership .globalNotIn
  | between .. => .between .between
  | notBetween .. => .between .notBetween
  | betweenColumns .. => .betweenColumns .between
  | notBetweenColumns .. => .betweenColumns .notBetween
  | dictionary .. => .dictionary

/-- What the names of the methods that make a filter end with. -/
def suffix : Filter → String
  | base .. => ""
  | eq .. => "_eq"
  | raw .. => "_raw"
  | isIn .. => "_in"
  | notIn .. => "_not_in"
  | globalIn .. => "_global_in"
  | globalNotIn .. => "_global_not_in"
  | between .. => "_between"
  | notBetween .. => "_not_between"
  | betweenColumns .. => "_between_columns"
  | notBetweenColumns .. => "_not_between_columns"
  | dictionary .. => "_dict"

/-- The arguments of the methods that make a filter. -/
def arguments : Filter → FilterArguments
  | base first op second => .comparison first op second
  | eq first second => .sides first second
  | raw sql => .raw sql
  | isIn first values => .sides first values
  | notIn first values => .sides first values
  | globalIn first values => .sides first values
  | globalNotIn first values => .sides first values
  | between first low high => .range first low high
  | notBetween first low high => .range first low high
  | betweenColumns first low high => .range first low high
  | notBetweenColumns first low high => .range first low high
  | dictionary name field key op second => .dictionary name field key op second

theorem condition?_arguments (f : Filter) : f.kind.condition? f.arguments = some f.condition := by
  cases f <;> rfl

end Filter

namespace Section

/-- The name of a method for the clause; `where` alone is not a name. -/
def methodName (s : Section) (c : Conjunction) (suffix : String) : String :=
  match c with
  | .and => if s.stem ++ suffix = "where" then "where_" else s.stem ++ suffix
  | .or => "or_" ++ s.stem ++ suffix

/-- The methods that make a filter are found under their names. -/
theorem named?_methodName (s : Section) (c : Conjunction) (f : Filter) :
    s.family.named? (s.methodName c f.suffix) = some ⟨s.methodName c f.suffix, s, c, f.kind⟩ := by
  cases s <;> cases c <;> cases f <;> simp only [Filter.suffix, Filter.kind] <;> decide +kernel

theorem named?_methodName_group (s : Section) (c : Conjunction) :
    s.family.named? (s.methodName c "_group") =
      some ⟨s.methodName c "_group", s, c, .group⟩ := by
  cases s <;> cases c <;> decide +kernel

end Section

namespace Query

mutual

/-- The query after a call that is made by the name of its method for a clause. -/
def filterNamed? (s : Section) (q : Query) : FilterCall → Option Query
  | .single c f =>
      (s.family.named? (s.methodName c f.suffix)).bind fun m =>
        (QueryCall.filter? m f.arguments).map q.call
  | .group c calls =>
      (s.family.named? (s.methodName c "_group")).bind fun m =>
        (filterAllNamed? s {} calls).bind fun inner =>
          (QueryCall.filter? m (.group inner)).map q.call

/-- The query after calls that are made by name, from the first to the last. -/
def filterAllNamed? (s : Section) (q : Query) : List FilterCall → Option Query
  | [] => some q
  | call :: calls => (filterNamed? s q call).bind fun r => filterAllNamed? s r calls

end

mutual

theorem filterNamed?_eq (s : Section) (q : Query) : (call : FilterCall) →
    q.filterNamed? s call = some (q.filter s call)
  | .single c f => by
      rw [filterNamed?, filter, s.named?_methodName c f, Option.bind_some, QueryCall.filter?,
        f.condition?_arguments]
      rfl
  | .group c calls => by
      rw [filterNamed?, filter, s.named?_methodName_group c, Option.bind_some,
        filterAllNamed?_eq s {} calls]
      rfl

/-- Calls by the names of methods for a clause are calls for this clause. -/
theorem filterAllNamed?_eq (s : Section) (q : Query) : (calls : List FilterCall) →
    q.filterAllNamed? s calls = some (q.filterAll s calls)
  | [] => by rw [filterAllNamed?, filterAll]
  | call :: calls => by
      rw [filterAllNamed?, filterAll, filterNamed?_eq s q call, Option.bind_some,
        filterAllNamed?_eq s _ calls]

end

/-- **The filters of the three clauses are one family**: the same calls, made for PREWHERE, for
WHERE or for HAVING, add the same conditions behind those that the clause has, and change nothing
else.  The conditions depend on the calls and on the attached tables of the query alone.  That is
what the methods of the three families do when they are called by their names. -/
theorem filterAll_eq (q : Query) (calls : List FilterCall) :
    let ps := FilterCall.predicates q.tables calls
    (q.filterAll .preWheres calls = { q with preWheres := q.preWheres ++ ps } ∧
      q.filterAll .wheres calls = { q with wheres := q.wheres ++ ps } ∧
      q.filterAll .havings calls = { q with havings := q.havings ++ ps }) ∧
    q.filterAllNamed? .preWheres calls = some { q with preWheres := q.preWheres ++ ps } ∧
      q.filterAllNamed? .wheres calls = some { q with wheres := q.wheres ++ ps } ∧
      q.filterAllNamed? .havings calls = some { q with havings := q.havings ++ ps } := by
  have hsection := fun s => filterAll_eq_setConditions s q calls
  have hnamed := fun s => (filterAllNamed?_eq s q calls).trans (congrArg some (hsection s))
  exact ⟨⟨hsection .preWheres, hsection .wheres, hsection .havings⟩,
    hnamed .preWheres, hnamed .wheres, hnamed .havings⟩

/-- A group whose only call excludes no value adds nothing. -/
example : ({} : Query).filterAll .havings
    [.group .or [.single .and (.notIn (.text "x") (.side (.tuple ⟨[]⟩)))]] = {} := rfl

end Query

end FluentSql
