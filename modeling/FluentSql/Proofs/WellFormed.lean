import FluentSql.Proofs.Star

/-! # Well-formed queries

A query has a text exactly when it is well formed (`Query.WellFormed`): nothing that was refused is
recorded in it, its FROM clause has a table, each join has a table and keys of one kind, and the
columns and queries inside it are well formed, at any depth.  Columns behind a bare `*` in GROUP BY
are the exception, for they are not compiled.

`Query.faults` lists the errors of all malformed parts in the order of the clauses.  Compiling
reports the first one: `Reports` says so of one compilation, a sequence of compilations reports the
faults of all of them one after the other (`Reports.bind`), and so the functions that write
queries report what the functions that list faults list (`Query.reports_faults`).  A query is well
formed when the list is empty (`Query.wellFormed_iff`). -/

namespace FluentSql

/-- The columns to group by that are compiled: those up to the first bare `*`. -/
def Column.throughStar : List Column → List Column
  | [] => []
  | c :: cs => c :: if c.isStar then [] else Column.throughStar cs

mutual

/-- What a column selects is well formed. -/
inductive ColumnSource.WellFormed : ColumnSource → Prop
  | value (v : Value) : ColumnSource.WellFormed (.value v)
  | column {c : Column} (hc : Column.WellFormed c) : ColumnSource.WellFormed (.column c)
  | query {q : Query} (hq : Query.WellFormed q) : ColumnSource.WellFormed (.query q)

/-- A column is well formed with its source, even if a function hides the source. -/
inductive Column.WellFormed : Column → Prop
  | intro {c : Column} (source : ∀ s, c.source = some s → ColumnSource.WellFormed s) :
      Column.WellFormed c

inductive TableSource.WellFormed : TableSource → Prop
  | name (id : Identifier) : TableSource.WellFormed (.name id)
  | raw (sql : String) : TableSource.WellFormed (.raw sql)
  | query {q : Query} (hq : Query.WellFormed q) : TableSource.WellFormed (.query q)

/-- A FROM clause must have a table. -/
inductive FromClause.WellFormed : FromClause → Prop
  | intro {f : FromClause} {t : TableSource} (table : f.table = some t)
      (ht : TableSource.WellFormed t) : FromClause.WellFormed f

inductive ArrayJoin.WellFormed : ArrayJoin → Prop
  | intro {a : ArrayJoin} (array : ColumnSource.WellFormed a.array) : ArrayJoin.WellFormed a

/-- A join must have a table and keys of exactly one kind. -/
inductive Join.WellFormed : Join → Prop
  | intro {j : Join} {t : TableSource} (table : j.table = some t)
      (keys : j.usingColumns ≠ [] ↔ j.onConditions = [])
      (ht : TableSource.WellFormed t)
      (conditions : ∀ p ∈ j.onConditions, Predicate.WellFormed p) : Join.WellFormed j

inductive Operand.WellFormed : Operand → Prop
  | value (v : Value) : Operand.WellFormed (.value v)
  | tuple (t : Tuple) : Operand.WellFormed (.tuple t)
  | column {c : Column} (hc : Column.WellFormed c) : Operand.WellFormed (.column c)
  | group {ps : List Predicate} (hps : ∀ p ∈ ps, Predicate.WellFormed p) :
      Operand.WellFormed (.group ps)
  | predicate {p : Predicate} (hp : Predicate.WellFormed p) : Operand.WellFormed (.predicate p)
  | query {q : Query} (hq : Query.WellFormed q) : Operand.WellFormed (.query q)

/-- Both sides of a condition must be well formed. -/
inductive Predicate.WellFormed : Predicate → Prop
  | intro {p : Predicate} (first : Operand.WellFormed p.first)
      (second : ∀ o, p.second = some o → Operand.WellFormed o) : Predicate.WellFormed p

/-- All that is written of a query must be well formed. -/
inductive Query.WellFormed : Query → Prop
  | intro {q : Query}
      (fault : q.fault = none)
      (columns : ∀ c ∈ q.columns, Column.WellFormed c)
      (fromClause : ∀ f, q.fromClause = some f → FromClause.WellFormed f)
      (arrayJoin : ∀ a, q.arrayJoin = some a → ArrayJoin.WellFormed a)
      (joins : ∀ j ∈ q.joins, Join.WellFormed j)
      (preWheres : ∀ p ∈ q.preWheres, Predicate.WellFormed p)
      (wheres : ∀ p ∈ q.wheres, Predicate.WellFormed p)
      (groups : ∀ c ∈ Column.throughStar q.groups, Column.WellFormed c)
      (havings : ∀ p ∈ q.havings, Predicate.WellFormed p)
      (orders : ∀ o ∈ q.orders, Column.WellFormed o.column)
      (limitBy : ∀ l, q.limitBy = some l → ∀ c ∈ l.columns, Column.WellFormed c)
      (unions : ∀ b ∈ q.unions, Query.WellFormed b) : Query.WellFormed q

end

/-! ### Listing faults -/

/-- What can be wrong with a part of a query. -/
inductive Malformation where
  | refusedArgument (f : ArgumentFault)
  /-- A FROM clause has no table. -/
  | noTable
  /-- A join lacks parts. -/
  | incompleteJoin (missing : List JoinPart)
  /-- A join has keys of both kinds. -/
  | keysOfBothKinds
deriving DecidableEq, Repr

/-- The error that tells of a malformed part. -/
def Malformation.error : Malformation → QueryError
  | refusedArgument f => .invalidArgument f
  | noTable => .missingFrom
  | incompleteJoin missing => .wrongJoin missing
  | keysOfBothKinds => .ambiguousJoinKeys

/-- The parts that a join lacks. -/
def Join.missingParts (j : Join) : List JoinPart :=
  (if j.table.isNone then [.table] else []) ++
    if j.usingColumns = [] ∧ j.onConditions = [] then [.keys] else []

/-- What is wrong with a join apart from what is in it. -/
def Join.ownFaults (j : Join) : List Malformation :=
  if j.missingParts ≠ [] then [.incompleteJoin j.missingParts]
  else if j.usingColumns ≠ [] ∧ j.onConditions ≠ [] then [.keysOfBothKinds]
  else []

mutual

/-- What is wrong with the parts, in the order in which they are written. -/
def ColumnSource.faults : ColumnSource → List Malformation
  | .value _ => []
  | .column c => c.faults
  | .query q => q.faults

def ColumnSource.faultsOfOption : Option ColumnSource → List Malformation
  | none => []
  | some s => s.faults

def Column.faults : Column → List Malformation
  | ⟨source, _, _⟩ => ColumnSource.faultsOfOption source

def Column.faultsOfList : List Column → List Malformation
  | [] => []
  | c :: cs => c.faults ++ Column.faultsOfList cs

def Column.faultsOfGroups : List Column → List Malformation
  | [] => []
  | c :: cs => c.faults ++ if c.isStar then [] else Column.faultsOfGroups cs

def TableSource.faults : TableSource → List Malformation
  | .name _ => []
  | .raw _ => []
  | .query q => q.faults

def TableSource.faultsOfOption : Option TableSource → List Malformation
  | none => []
  | some t => t.faults

def FromClause.faults : FromClause → List Malformation
  | ⟨table, _, _⟩ =>
      (if table.isNone then [.noTable] else []) ++ TableSource.faultsOfOption table

def FromClause.faultsOfOption : Option FromClause → List Malformation
  | none => []
  | some f => f.faults

def ArrayJoin.faults : ArrayJoin → List Malformation
  | ⟨array, _⟩ => array.faults

def ArrayJoin.faultsOfOption : Option ArrayJoin → List Malformation
  | none => []
  | some a => a.faults

/-- The fault of a join itself comes before those of its table and its conditions. -/
def Join.faults : Join → List Malformation
  | ⟨table, strictness, kind, aliasName, isGlobal, usingColumns, onConditions⟩ =>
      Join.ownFaults ⟨table, strictness, kind, aliasName, isGlobal, usingColumns, onConditions⟩ ++
        (TableSource.faultsOfOption table ++ Predicate.faultsOfList onConditions)

def Join.faultsOfList : List Join → List Malformation
  | [] => []
  | j :: js => j.faults ++ Join.faultsOfList js

def Operand.faults : Operand → List Malformation
  | .value _ => []
  | .tuple _ => []
  | .column c => c.faults
  | .group ps => Predicate.faultsOfList ps
  | .predicate p => p.faults
  | .query q => q.faults

def Operand.faultsOfOption : Option Operand → List Malformation
  | none => []
  | some o => o.faults

def Predicate.faults : Predicate → List Malformation
  | ⟨first, _, second, _⟩ => first.faults ++ Operand.faultsOfOption second

def Predicate.faultsOfList : List Predicate → List Malformation
  | [] => []
  | p :: ps => p.faults ++ Predicate.faultsOfList ps

def Order.faults : Order → List Malformation
  | ⟨column, _, _⟩ => column.faults

def Order.faultsOfList : List Order → List Malformation
  | [] => []
  | o :: os => o.faults ++ Order.faultsOfList os

def LimitBy.faults : LimitBy → List Malformation
  | ⟨_, columns⟩ => Column.faultsOfList columns

def LimitBy.faultsOfOption : Option LimitBy → List Malformation
  | none => []
  | some l => l.faults

/-- What is wrong with a query: the refused argument that is recorded comes first, then the clauses
follow in the order in which they are compiled. -/
def Query.faults : Query → List Malformation
  | ⟨columns, fromClause, _, arrayJoin, joins, preWheres, wheres, groups, havings, orders,
      limitBy, _, unions, _, _, _, _, _, fault⟩ =>
      (fault.map Malformation.refusedArgument).toList ++ (Column.faultsOfList columns ++
        (FromClause.faultsOfOption fromClause ++ (ArrayJoin.faultsOfOption arrayJoin ++
        (Join.faultsOfList joins ++ (Predicate.faultsOfList preWheres ++
        (Predicate.faultsOfList wheres ++ (Column.faultsOfGroups groups ++
        (Predicate.faultsOfList havings ++ (Order.faultsOfList orders ++
        (LimitBy.faultsOfOption limitBy ++ Query.faultsOfList unions))))))))))

def Query.faultsOfList : List Query → List Malformation
  | [] => []
  | q :: qs => q.faults ++ Query.faultsOfList qs

end

/-! ### Reporting the first fault -/

/-- The computation fails with the first of the faults, and succeeds when there is none. -/
def Reports {α : Type} : List Malformation → Except QueryError α → Prop
  | [], .ok _ => True
  | f :: _, .error e => e = f.error
  | _, _ => False

namespace Reports

variable {α β : Type} {fs gs : List Malformation} {x : Except QueryError α}

theorem pure (a : α) : Reports [] (Except.ok a : Except QueryError α) := trivial

/-- A computation and its continuation report the faults of both in this order. -/
theorem bind {k : α → Except QueryError β} (hx : Reports fs x)
    (hk : ∀ a, x = .ok a → Reports gs (k a)) : Reports (fs ++ gs) (x >>= k) := by
  cases fs with
  | nil =>
      cases x with
      | ok a => exact hk a rfl
      | error e => cases hx
  | cons f fs =>
      cases x with
      | ok a => cases hx
      | error e => exact hx

theorem map {k : α → β} (hx : Reports fs x) : Reports fs (x >>= fun a => Except.ok (k a)) := by
  have h := hx.bind (k := fun a => Except.ok (k a)) fun a _ => pure (k a)
  rwa [List.append_nil] at h

theorem ok_iff (hx : Reports fs x) : (∃ a, x = .ok a) ↔ fs = [] := by
  cases fs <;> cases x <;> simp_all [Reports]

theorem error_iff (hx : Reports fs x) (e : QueryError) :
    x = .error e ↔ ∃ f, fs.head? = some f ∧ e = f.error := by
  cases fs <;> cases x <;> simp_all [Reports, eq_comm]

end Reports

/-! ### The faults that compiling reports -/

theorem ArgumentFault.reports_check (fault : Option ArgumentFault) :
    Reports (fault.map Malformation.refusedArgument).toList (ArgumentFault.check fault) := by
  cases fault with
  | none => exact Reports.pure ()
  | some f => rfl

theorem Join.reports_check (j : Join) : Reports j.ownFaults
    (Join.check j.table.isSome (j.usingColumns ≠ []) (¬ j.onConditions.isEmpty)) := by
  obtain ⟨table, _, _, _, _, usingColumns, onConditions⟩ := j
  cases table <;> cases usingColumns <;> cases onConditions <;> trivial

mutual

theorem ColumnSource.reports_faults : ∀ s : ColumnSource, Reports s.faults s.toSql
  | .value v => by rw [ColumnSource.faults, ColumnSource.toSql]; exact Reports.pure _
  | .column c => by
      rw [ColumnSource.faults, ColumnSource.toSql]; exact (Column.reports_faults c).map
  | .query q => by
      rw [ColumnSource.faults, ColumnSource.toSql]; exact (Query.reports_faults q).map

theorem ColumnSource.reports_faultsOfOption : ∀ s : Option ColumnSource,
    Reports (ColumnSource.faultsOfOption s) (ColumnSource.toSqlOrNothing s)
  | none => by
      rw [ColumnSource.faultsOfOption, ColumnSource.toSqlOrNothing]; exact Reports.pure _
  | some s => by
      rw [ColumnSource.faultsOfOption, ColumnSource.toSqlOrNothing]
      exact ColumnSource.reports_faults s

theorem ColumnSource.reports_faults_bare : ∀ s : ColumnSource, Reports s.faults s.toSqlBare
  | .value v => by rw [ColumnSource.faults, ColumnSource.toSqlBare]; exact Reports.pure _
  | .column c => by
      rw [ColumnSource.faults, ColumnSource.toSqlBare]; exact Column.reports_faults c
  | .query q => by
      rw [ColumnSource.faults, ColumnSource.toSqlBare]; exact (Query.reports_faults q).map

theorem Column.reports_faults : ∀ c : Column, Reports c.faults c.toSql
  | ⟨source, _, _⟩ => by
      rw [Column.faults, Column.toSql]; exact (ColumnSource.reports_faultsOfOption source).map

theorem Column.reports_faultsOfList : ∀ cs : List Column,
    Reports (Column.faultsOfList cs) (Column.toSqlList cs)
  | [] => by rw [Column.faultsOfList, Column.toSqlList]; exact Reports.pure _
  | c :: cs => by
      rw [Column.faultsOfList, Column.toSqlList]
      exact (Column.reports_faults c).bind fun _ _ => (Column.reports_faultsOfList cs).map

theorem Column.reports_faultsOfGroups : ∀ cs : List Column,
    Reports (Column.faultsOfGroups cs) (Column.toSqlGroups cs)
  | [] => by rw [Column.faultsOfGroups, Column.toSqlGroups]; exact Reports.pure _
  | c :: cs => by
      rw [Column.faultsOfGroups, Column.toSqlGroups]
      refine (Column.reports_faults c).bind fun sql hsql => ?_
      have hstar : sql = "*" ↔ c.isStar := by
        rw [← Column.toSql_eq_star_iff, hsql, Except.ok.injEq]
      by_cases h : sql = "*"
      · rw [if_pos h, if_pos (hstar.mp h)]
        exact Reports.pure _
      · rw [if_neg h, if_neg fun hc => h (hstar.mpr hc)]
        exact (Column.reports_faultsOfGroups cs).map

theorem TableSource.reports_faults : ∀ t : TableSource, Reports t.faults t.toSql
  | .name id => by rw [TableSource.faults, TableSource.toSql]; exact Reports.pure _
  | .raw sql => by rw [TableSource.faults, TableSource.toSql]; exact Reports.pure _
  | .query q => by
      rw [TableSource.faults, TableSource.toSql]; exact (Query.reports_faults q).map

theorem FromClause.reports_faults : ∀ f : FromClause, Reports f.faults f.toSql
  | ⟨none, _, _⟩ => by
      rw [FromClause.faults, FromClause.toSql, TableSource.toSqlOrMissing]; rfl
  | ⟨some t, _, _⟩ => by
      rw [FromClause.faults, FromClause.toSql, TableSource.toSqlOrMissing,
        TableSource.faultsOfOption]
      exact (TableSource.reports_faults t).map

theorem FromClause.reports_faultsOfOption : ∀ f : Option FromClause,
    Reports (FromClause.faultsOfOption f) (FromClause.toSqlOrNothing f)
  | none => by rw [FromClause.faultsOfOption, FromClause.toSqlOrNothing]; exact Reports.pure _
  | some f => by
      rw [FromClause.faultsOfOption, FromClause.toSqlOrNothing]; exact FromClause.reports_faults f

theorem ArrayJoin.reports_faultsOfOption : ∀ a : Option ArrayJoin,
    Reports (ArrayJoin.faultsOfOption a) (ArrayJoin.toSqlOrNothing a)
  | none => by rw [ArrayJoin.faultsOfOption, ArrayJoin.toSqlOrNothing]; exact Reports.pure _
  | some ⟨array, _⟩ => by
      rw [ArrayJoin.faultsOfOption, ArrayJoin.toSqlOrNothing, ArrayJoin.faults, ArrayJoin.toSql]
      exact (ColumnSource.reports_faults_bare array).map

theorem Join.reports_faults : ∀ j : Join, Reports j.faults j.toSql
  | ⟨none, strictness, kind, aliasName, isGlobal, usingColumns, onConditions⟩ => by
      rw [Join.faults, Join.toSql]
      refine (Join.reports_check ⟨none, strictness, kind, aliasName, isGlobal, usingColumns,
        onConditions⟩).bind fun u hu => ?_
      -- the check lets no join without a table pass
      have hfaults := (Join.reports_check ⟨none, strictness, kind, aliasName, isGlobal,
        usingColumns, onConditions⟩).ok_iff.mp ⟨u, hu⟩
      simp [Join.ownFaults, Join.missingParts] at hfaults
  | ⟨some t, strictness, kind, aliasName, isGlobal, usingColumns, onConditions⟩ => by
      rw [Join.faults, Join.toSql, TableSource.faultsOfOption, TableSource.toSqlOrMissing]
      exact (Join.reports_check ⟨some t, strictness, kind, aliasName, isGlobal, usingColumns,
        onConditions⟩).bind fun _ _ =>
          (TableSource.reports_faults t).bind fun _ _ =>
            (Predicate.reports_faultsOfList onConditions).map

theorem Join.reports_faultsOfList : ∀ js : List Join,
    Reports (Join.faultsOfList js) (Join.toSqlList js)
  | [] => by rw [Join.faultsOfList, Join.toSqlList]; exact Reports.pure _
  | j :: js => by
      rw [Join.faultsOfList, Join.toSqlList]
      exact (Join.reports_faults j).bind fun _ _ => (Join.reports_faultsOfList js).map

theorem Operand.reports_faults : ∀ o : Operand, Reports o.faults o.toSql
  | .value v => by rw [Operand.faults, Operand.toSql]; exact Reports.pure _
  | .tuple t => by rw [Operand.faults, Operand.toSql]; exact Reports.pure _
  | .column c => by rw [Operand.faults, Operand.toSql]; exact Column.reports_faults c
  | .group ps => by
      rw [Operand.faults, Operand.toSql]; exact (Predicate.reports_faultsOfList ps).map
  | .predicate p => by rw [Operand.faults, Operand.toSql]; exact Predicate.reports_faults p
  | .query q => by rw [Operand.faults, Operand.toSql]; exact (Query.reports_faults q).map

theorem Operand.reports_faultsOfOption : ∀ o : Option Operand,
    Reports (Operand.faultsOfOption o) (Operand.toSqlOrNothing o)
  | none => by rw [Operand.faultsOfOption, Operand.toSqlOrNothing]; exact Reports.pure _
  | some o => by
      rw [Operand.faultsOfOption, Operand.toSqlOrNothing]; exact Operand.reports_faults o

theorem Predicate.reports_faults : ∀ p : Predicate, Reports p.faults p.toSql
  | ⟨first, _, second, _⟩ => by
      rw [Predicate.faults, Predicate.toSql]
      exact (Operand.reports_faults first).bind fun _ _ =>
        (Operand.reports_faultsOfOption second).map

theorem Predicate.reports_faultsOfList : ∀ ps : List Predicate,
    Reports (Predicate.faultsOfList ps) (Predicate.toSqlList ps)
  | [] => by rw [Predicate.faultsOfList, Predicate.toSqlList]; exact Reports.pure _
  | p :: ps => by
      rw [Predicate.faultsOfList, Predicate.toSqlList]
      exact (Predicate.reports_faults p).bind fun _ _ => (Predicate.reports_faultsOfList ps).map

theorem Order.reports_faultsOfList : ∀ os : List Order,
    Reports (Order.faultsOfList os) (Order.toSqlList os)
  | [] => by rw [Order.faultsOfList, Order.toSqlList]; exact Reports.pure _
  | ⟨column, _, _⟩ :: os => by
      rw [Order.faultsOfList, Order.toSqlList, Order.faults, Order.toSql]
      exact (Column.reports_faults column).map.bind fun _ _ => (Order.reports_faultsOfList os).map

theorem LimitBy.reports_faultsOfOption : ∀ l : Option LimitBy,
    Reports (LimitBy.faultsOfOption l) (LimitBy.toSqlOrNothing l)
  | none => by rw [LimitBy.faultsOfOption, LimitBy.toSqlOrNothing]; exact Reports.pure _
  | some ⟨_, columns⟩ => by
      rw [LimitBy.faultsOfOption, LimitBy.toSqlOrNothing, LimitBy.faults, LimitBy.toSql]
      exact (Column.reports_faultsOfList columns).map

/-- Compiling a query reports its first fault. -/
theorem Query.reports_faults : ∀ q : Query, Reports q.faults q.toSql
  | ⟨columns, fromClause, _, arrayJoin, joins, preWheres, wheres, groups, havings, orders,
      limitBy, _, unions, _, _, _, _, _, fault⟩ => by
      rw [Query.faults, Query.toSql]
      exact (ArgumentFault.reports_check fault).bind fun _ _ =>
        (Column.reports_faultsOfList columns).bind fun _ _ =>
        (FromClause.reports_faultsOfOption fromClause).bind fun _ _ =>
        (ArrayJoin.reports_faultsOfOption arrayJoin).bind fun _ _ =>
        (Join.reports_faultsOfList joins).bind fun _ _ =>
        (Predicate.reports_faultsOfList preWheres).bind fun _ _ =>
        (Predicate.reports_faultsOfList wheres).bind fun _ _ =>
        (Column.reports_faultsOfGroups groups).bind fun _ _ =>
        (Predicate.reports_faultsOfList havings).bind fun _ _ =>
        (Order.reports_faultsOfList orders).bind fun _ _ =>
        (LimitBy.reports_faultsOfOption limitBy).bind fun _ _ =>
        (Query.reports_faultsOfList unions).map

theorem Query.reports_faultsOfList : ∀ qs : List Query,
    Reports (Query.faultsOfList qs) (Query.toSqlList qs)
  | [] => by rw [Query.faultsOfList, Query.toSqlList]; exact Reports.pure _
  | q :: qs => by
      rw [Query.faultsOfList, Query.toSqlList]
      exact (Query.reports_faults q).bind fun _ _ => (Query.reports_faultsOfList qs).map

end

/-! ### Well-formed queries have no fault -/

theorem Join.ownFaults_eq_nil_iff (j : Join) :
    j.ownFaults = [] ↔ j.table.isSome ∧ (j.usingColumns ≠ [] ↔ j.onConditions = []) := by
  obtain ⟨table, _, _, _, _, usingColumns, onConditions⟩ := j
  cases table <;> cases usingColumns <;> cases onConditions <;>
    simp [ownFaults, missingParts]

mutual

theorem ColumnSource.wellFormed_iff : ∀ s : ColumnSource, s.WellFormed ↔ s.faults = []
  | .value v => by rw [ColumnSource.faults]; exact iff_of_true (.value v) rfl
  | .column c => by
      rw [ColumnSource.faults, ← Column.wellFormed_iff c]
      exact ⟨fun h => by cases h; assumption, .column⟩
  | .query q => by
      rw [ColumnSource.faults, ← Query.wellFormed_iff q]
      exact ⟨fun h => by cases h; assumption, .query⟩

theorem ColumnSource.wellFormed_option_iff : ∀ source : Option ColumnSource,
    (∀ s, source = some s → s.WellFormed) ↔ ColumnSource.faultsOfOption source = []
  | none => by rw [ColumnSource.faultsOfOption]; simp
  | some s => by
      rw [ColumnSource.faultsOfOption, ← ColumnSource.wellFormed_iff s]; simp

theorem Column.wellFormed_iff : ∀ c : Column, c.WellFormed ↔ c.faults = []
  | ⟨source, _, _⟩ => by
      rw [Column.faults, ← ColumnSource.wellFormed_option_iff source]
      exact ⟨fun ⟨h⟩ => h, fun h => ⟨h⟩⟩

theorem Column.wellFormed_list_iff : ∀ cs : List Column,
    (∀ c ∈ cs, c.WellFormed) ↔ Column.faultsOfList cs = []
  | [] => by rw [Column.faultsOfList]; simp
  | c :: cs => by
      rw [Column.faultsOfList, List.append_eq_nil_iff, ← Column.wellFormed_iff c,
        ← Column.wellFormed_list_iff cs, List.forall_mem_cons]

theorem Column.wellFormed_groups_iff : ∀ cs : List Column,
    (∀ c ∈ Column.throughStar cs, c.WellFormed) ↔ Column.faultsOfGroups cs = []
  | [] => by rw [Column.faultsOfGroups]; simp [Column.throughStar]
  | c :: cs => by
      rw [Column.faultsOfGroups, List.append_eq_nil_iff, ← Column.wellFormed_iff c,
        Column.throughStar, List.forall_mem_cons]
      by_cases hc : c.isStar
      · simp [hc]
      · rw [if_neg hc, if_neg hc, ← Column.wellFormed_groups_iff cs]

theorem TableSource.wellFormed_iff : ∀ t : TableSource, t.WellFormed ↔ t.faults = []
  | .name id => by rw [TableSource.faults]; exact iff_of_true (.name id) rfl
  | .raw sql => by rw [TableSource.faults]; exact iff_of_true (.raw sql) rfl
  | .query q => by
      rw [TableSource.faults, ← Query.wellFormed_iff q]
      exact ⟨fun h => by cases h; assumption, .query⟩

theorem FromClause.wellFormed_option_iff : ∀ fromClause : Option FromClause,
    (∀ f, fromClause = some f → f.WellFormed) ↔ FromClause.faultsOfOption fromClause = []
  | none => by rw [FromClause.faultsOfOption]; simp
  | some ⟨none, _, _⟩ => by
      rw [FromClause.faultsOfOption, FromClause.faults]
      refine iff_of_false (fun h => ?_) (by simp)
      obtain ⟨htable, -⟩ := h _ rfl
      cases htable
  | some ⟨some t, _, _⟩ => by
      rw [FromClause.faultsOfOption, FromClause.faults, TableSource.faultsOfOption]
      simp only [Option.isNone_some, Bool.false_eq_true, if_false, List.nil_append]
      rw [← TableSource.wellFormed_iff t]
      constructor
      · intro h
        obtain ⟨htable, ht⟩ := h _ rfl
        cases htable
        exact ht
      · rintro ht f ⟨⟩
        exact ⟨rfl, ht⟩

theorem ArrayJoin.wellFormed_option_iff : ∀ arrayJoin : Option ArrayJoin,
    (∀ a, arrayJoin = some a → a.WellFormed) ↔ ArrayJoin.faultsOfOption arrayJoin = []
  | none => by rw [ArrayJoin.faultsOfOption]; simp
  | some ⟨array, _⟩ => by
      rw [ArrayJoin.faultsOfOption, ArrayJoin.faults, ← ColumnSource.wellFormed_iff array]
      constructor
      · intro h
        obtain ⟨ha⟩ := h _ rfl
        exact ha
      · rintro ha a ⟨⟩
        exact ⟨ha⟩

theorem Join.wellFormed_iff : ∀ j : Join, j.WellFormed ↔ j.faults = []
  | ⟨none, strictness, kind, aliasName, isGlobal, usingColumns, onConditions⟩ => by
      rw [Join.faults, List.append_eq_nil_iff, Join.ownFaults_eq_nil_iff]
      refine iff_of_false (fun h => ?_) (by simp)
      obtain ⟨htable, -, -, -⟩ := h
      cases htable
  | ⟨some t, strictness, kind, aliasName, isGlobal, usingColumns, onConditions⟩ => by
      rw [Join.faults, List.append_eq_nil_iff, List.append_eq_nil_iff, Join.ownFaults_eq_nil_iff,
        TableSource.faultsOfOption, ← TableSource.wellFormed_iff t,
        ← Predicate.wellFormed_list_iff onConditions]
      constructor
      · rintro ⟨htable, hkeys, ht, hps⟩
        cases htable
        exact ⟨⟨rfl, hkeys⟩, ht, hps⟩
      · rintro ⟨⟨-, hkeys⟩, ht, hps⟩
        exact ⟨rfl, hkeys, ht, hps⟩

theorem Join.wellFormed_list_iff : ∀ js : List Join,
    (∀ j ∈ js, j.WellFormed) ↔ Join.faultsOfList js = []
  | [] => by rw [Join.faultsOfList]; simp
  | j :: js => by
      rw [Join.faultsOfList, List.append_eq_nil_iff, ← Join.wellFormed_iff j,
        ← Join.wellFormed_list_iff js, List.forall_mem_cons]

theorem Operand.wellFormed_iff : ∀ o : Operand, o.WellFormed ↔ o.faults = []
  | .value v => by rw [Operand.faults]; exact iff_of_true (.value v) rfl
  | .tuple t => by rw [Operand.faults]; exact iff_of_true (.tuple t) rfl
  | .column c => by
      rw [Operand.faults, ← Column.wellFormed_iff c]
      exact ⟨fun h => by cases h; assumption, .column⟩
  | .group ps => by
      rw [Operand.faults, ← Predicate.wellFormed_list_iff ps]
      exact ⟨fun h => by cases h; assumption, .group⟩
  | .predicate p => by
      rw [Operand.faults, ← Predicate.wellFormed_iff p]
      exact ⟨fun h => by cases h; assumption, .predicate⟩
  | .query q => by
      rw [Operand.faults, ← Query.wellFormed_iff q]
      exact ⟨fun h => by cases h; assumption, .query⟩

theorem Operand.wellFormed_option_iff : ∀ second : Option Operand,
    (∀ o, second = some o → o.WellFormed) ↔ Operand.faultsOfOption second = []
  | none => by rw [Operand.faultsOfOption]; simp
  | some o => by rw [Operand.faultsOfOption, ← Operand.wellFormed_iff o]; simp

theorem Predicate.wellFormed_iff : ∀ p : Predicate, p.WellFormed ↔ p.faults = []
  | ⟨first, _, second, _⟩ => by
      rw [Predicate.faults, List.append_eq_nil_iff, ← Operand.wellFormed_iff first,
        ← Operand.wellFormed_option_iff second]
      exact ⟨fun ⟨hfirst, hsecond⟩ => ⟨hfirst, hsecond⟩, fun ⟨hfirst, hsecond⟩ => ⟨hfirst, hsecond⟩⟩

theorem Predicate.wellFormed_list_iff : ∀ ps : List Predicate,
    (∀ p ∈ ps, p.WellFormed) ↔ Predicate.faultsOfList ps = []
  | [] => by rw [Predicate.faultsOfList]; simp
  | p :: ps => by
      rw [Predicate.faultsOfList, List.append_eq_nil_iff, ← Predicate.wellFormed_iff p,
        ← Predicate.wellFormed_list_iff ps, List.forall_mem_cons]

theorem Order.wellFormed_list_iff : ∀ os : List Order,
    (∀ o ∈ os, o.column.WellFormed) ↔ Order.faultsOfList os = []
  | [] => by rw [Order.faultsOfList]; simp
  | ⟨column, _, _⟩ :: os => by
      rw [Order.faultsOfList, Order.faults, List.append_eq_nil_iff,
        ← Column.wellFormed_iff column, ← Order.wellFormed_list_iff os, List.forall_mem_cons]

theorem LimitBy.wellFormed_option_iff : ∀ limitBy : Option LimitBy,
    (∀ l, limitBy = some l → ∀ c ∈ l.columns, c.WellFormed) ↔
      LimitBy.faultsOfOption limitBy = []
  | none => by rw [LimitBy.faultsOfOption]; simp
  | some ⟨_, columns⟩ => by
      rw [LimitBy.faultsOfOption, LimitBy.faults, ← Column.wellFormed_list_iff columns]; simp

/-- A query is well formed exactly when nothing is wrong with it. -/
theorem Query.wellFormed_iff : ∀ q : Query, q.WellFormed ↔ q.faults = []
  | ⟨columns, fromClause, _, arrayJoin, joins, preWheres, wheres, groups, havings, orders,
      limitBy, _, unions, _, _, _, _, _, fault⟩ => by
      simp only [Query.faults, List.append_eq_nil_iff]
      rw [← Column.wellFormed_list_iff columns, ← FromClause.wellFormed_option_iff fromClause,
        ← ArrayJoin.wellFormed_option_iff arrayJoin, ← Join.wellFormed_list_iff joins,
        ← Predicate.wellFormed_list_iff preWheres, ← Predicate.wellFormed_list_iff wheres,
        ← Column.wellFormed_groups_iff groups, ← Predicate.wellFormed_list_iff havings,
        ← Order.wellFormed_list_iff orders, ← LimitBy.wellFormed_option_iff limitBy,
        ← Query.wellFormed_list_iff unions]
      have hfault : (fault.map Malformation.refusedArgument).toList = [] ↔ fault = none := by
        cases fault <;> simp
      rw [hfault]
      constructor
      · rintro ⟨h1, h2, h3, h4, h5, h6, h7, h8, h9, h10, h11, h12⟩
        exact ⟨h1, h2, h3, h4, h5, h6, h7, h8, h9, h10, h11, h12⟩
      · rintro ⟨h1, h2, h3, h4, h5, h6, h7, h8, h9, h10, h11, h12⟩
        exact ⟨h1, h2, h3, h4, h5, h6, h7, h8, h9, h10, h11, h12⟩

theorem Query.wellFormed_list_iff : ∀ qs : List Query,
    (∀ q ∈ qs, q.WellFormed) ↔ Query.faultsOfList qs = []
  | [] => by rw [Query.faultsOfList]; simp
  | q :: qs => by
      rw [Query.faultsOfList, List.append_eq_nil_iff, ← Query.wellFormed_iff q,
        ← Query.wellFormed_list_iff qs, List.forall_mem_cons]

end

theorem Malformation.error_cases (f : Malformation) :
    f.error = .missingFrom ∨ (∃ missing, f.error = .wrongJoin missing) ∨
      f.error = .ambiguousJoinKeys ∨ ∃ fault, f.error = .invalidArgument fault := by
  cases f <;> simp [Malformation.error]

theorem Malformation.isStructural_error (f : Malformation) : f.error.isStructural := by
  cases f <;> rfl

/-- **Compiling succeeds exactly on well-formed queries and otherwise reports the first fault**, as
one of four structural errors. -/
theorem Query.toSql_ok_iff_wellFormed_and_error_iff (q : Query) :
    ((∃ sql, q.toSql = .ok sql) ↔ q.WellFormed) ∧
      (∀ e, q.toSql = .error e ↔ ∃ f, q.faults.head? = some f ∧ e = f.error) ∧
      ∀ e, q.toSql = .error e → e.isStructural ∧
        (e = .missingFrom ∨ (∃ missing, e = .wrongJoin missing) ∨ e = .ambiguousJoinKeys ∨
          ∃ fault, e = .invalidArgument fault) := by
  have h := q.reports_faults
  refine ⟨by rw [h.ok_iff, q.wellFormed_iff], h.error_iff, fun e he => ?_⟩
  obtain ⟨f, -, rfl⟩ := (h.error_iff e).mp he
  exact ⟨f.isStructural_error, f.error_cases⟩

end FluentSql
