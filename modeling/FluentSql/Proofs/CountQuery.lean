import FluentSql.Proofs.Paging

/-! # The stability of the count query

The query that counts the rows of another one is its own count query, and calls that do not change
how many rows there are do not change it (`Query.LeavesCount`).  It is written whenever the other
one is, and it has the tables, the settings and the format of the other one, of which the table that
it may count has neither tables nor format (`Query.IsCountOf`). -/

namespace FluentSql

namespace Query

variable {q : Query} {c : QueryCall}

/-! ### Calls that do not matter -/

/-- The call has no effect on the number of rows: it gives the query a window or a sibling, a place
in an order that is not kept, or columns that give way to the count. -/
inductive LeavesCount (q : Query) : QueryCall → Prop
  | setLimit (l : RowLimit) : LeavesCount q (.setLimit l)
  | addSibling (other : Query) : LeavesCount q (.addSibling other)
  | addOrder (item : SelectItem) (direction : Option Direction) (collation : Option String)
      (h : ¬ (q.groups ≠ [] ∧ q.CountsInPlace)) : LeavesCount q (.addOrder item direction collation)
  | select (items : List SelectItem) (h : q.CountsInPlace) : LeavesCount q (.select items)
  | addSelect (items : List SelectItem) (h : q.CountsInPlace) : LeavesCount q (.addSelect items)
  | addSelectDictionary (dictionary field : String) (key : Value) (aliasName : Option Identifier)
      (h : q.CountsInPlace) : LeavesCount q (.addSelectDictionary dictionary field key aliasName)

/-- A call that does not matter leaves what decides how rows are counted. -/
theorem LeavesCount.groups_and_countsInPlace (h : q.LeavesCount c) :
    (q.call c).groups = q.groups ∧ ((q.call c).CountsInPlace ↔ q.CountsInPlace) := by
  cases h <;> exact ⟨rfl, Iff.rfl⟩

theorem LeavesCount.call (h : q.LeavesCount c) {d : QueryCall} (hd : q.LeavesCount d) :
    (q.call c).LeavesCount d := by
  obtain ⟨hgroups, hplace⟩ := h.groups_and_countsInPlace
  cases hd with
  | setLimit l => exact .setLimit l
  | addSibling other => exact .addSibling other
  | addOrder item direction collation h =>
      exact .addOrder item direction collation (by rwa [hgroups, hplace])
  | select items h => exact .select items (hplace.mpr h)
  | addSelect items h => exact .addSelect items (hplace.mpr h)
  | addSelectDictionary dictionary field key aliasName h =>
      exact .addSelectDictionary dictionary field key aliasName (hplace.mpr h)

theorem LeavesCount.countQuery_call (h : q.LeavesCount c) :
    (q.call c).countQuery = q.countQuery := by
  obtain ⟨hgroups, hplace⟩ := h.groups_and_countsInPlace
  by_cases hq : q.CountsInPlace
  · rw [countQuery, countQuery, countOf_of_inPlace hq, countOf_of_inPlace (hplace.mpr hq), hgroups]
    cases h with
    | addOrder item direction collation h =>
        have hnil : q.groups = [] := by
          by_contra hne
          exact h ⟨hne, hq⟩
        rw [if_pos hnil, if_pos hnil]
        rfl
    | _ => rfl
  · rw [countQuery, countQuery, countOf_of_not_inPlace hq,
      countOf_of_not_inPlace (mt hplace.mp hq)]
    cases h with
    | select items h => exact absurd h hq
    | addSelect items h => exact absurd h hq
    | addSelectDictionary dictionary field key aliasName h => exact absurd h hq
    | _ => rfl

theorem countQuery_foldl_call {calls : List QueryCall} : ∀ {q : Query},
    (∀ c ∈ calls, q.LeavesCount c) → (calls.foldl call q).countQuery = q.countQuery := by
  induction calls with
  | nil => exact fun _ => rfl
  | cons c calls ih =>
      intro q h
      obtain ⟨hc, hcalls⟩ := List.forall_mem_cons.mp h
      rw [List.foldl_cons, ih fun d hd => hc.call (hcalls d hd), hc.countQuery_call]

/-! ### The count query -/

theorem countsInPlace_countQuery (q : Query) : q.countQuery.CountsInPlace := by
  by_cases h : q.CountsInPlace
  · rw [countQuery, countOf_of_inPlace h]
    exact h
  · rw [countQuery, countOf_of_not_inPlace h]
    exact ⟨rfl, rfl⟩

theorem countQuery_countQuery (q : Query) : q.countQuery.countQuery = q.countQuery := by
  have hplace := q.countsInPlace_countQuery
  conv_lhs => rw [countQuery, countOf_of_inPlace hplace]
  by_cases h : q.CountsInPlace
  · rw [countQuery, countOf_of_inPlace h]
    by_cases hgroups : q.groups = [] <;> simp [hgroups]
  · rw [countQuery, countOf_of_not_inPlace h]
    rfl

theorem exists_toSql_countQuery {sql : String} (hsql : q.toSql = .ok sql) :
    ∃ count, q.countQuery.toSql = .ok count := by
  have hfaults := q.reports_faults.ok_iff.mp ⟨sql, hsql⟩
  exact q.countQuery.reports_faults.ok_iff.mpr (faults_countQuery hfaults)

/-- The query as the table that is counted: without window, siblings and order, and without tables
and format, which belong to the whole statement. -/
def asTable (q : Query) : Query :=
  { q with limit := none, siblings := [], orders := [], tables := KeyMap.empty, format := none }

/-- A count query selects the count, without a window and siblings, and has what is sent along with
its query.  All the rest of the query stands in it, or the query is the table that it counts. -/
structure IsCountOf (count q : Query) : Prop where
  columns : count.columns = [countColumn ⟨"*"⟩]
  limit : count.limit = none
  siblings : count.siblings = []
  tables : count.tables = q.tables
  settings : count.settings = q.settings
  format : count.format = q.format
  rest : q.CountsInPlace →
    { count with
      columns := q.columns, orders := q.orders, limit := q.limit, siblings := q.siblings } = q
  fromClause : ¬ q.CountsInPlace → count.fromClause = some { table := some (.query q.asTable) }

theorem isCountOf_countQuery (q : Query) : IsCountOf q.countQuery q := by
  by_cases h : q.CountsInPlace
  · rw [countQuery, countOf_of_inPlace h]
    refine ⟨rfl, rfl, rfl, rfl, rfl, rfl, fun _ => ?_, fun hno => absurd h hno⟩
    cases q
    rfl
  · rw [countQuery, countOf_of_not_inPlace h]
    exact ⟨rfl, rfl, rfl, rfl, rfl, rfl, fun hplace => absurd hplace h, fun _ => rfl⟩

/-- **The count query is stable.**  It is its own count query, it is the same after any calls that
do not change the number of rows, it is written whenever the query is, and tables, settings and
format stand on it, whether it counts in place or counts the query as a table. -/
theorem countQuery_stable (q : Query) :
    q.countQuery.countQuery = q.countQuery ∧
      (∀ calls : List QueryCall, (∀ c ∈ calls, q.LeavesCount c) →
        (calls.foldl call q).countQuery = q.countQuery) ∧
      (∀ sql, q.toSql = .ok sql → ∃ count, q.countQuery.toSql = .ok count) ∧
      IsCountOf q.countQuery q :=
  ⟨countQuery_countQuery q, fun _ => countQuery_foldl_call, fun _ => exists_toSql_countQuery,
    isCountOf_countQuery q⟩

end Query

end FluentSql
