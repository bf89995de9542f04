import FluentSql.Proofs.Recording
import FluentSql.Proofs.SelectAlike
import FluentSql.Proofs.Star
import FluentSql.Proofs.Statement
import FluentSql.Proofs.TermReading
import FluentSql.Query.Call

/-! # Counts and the statements that they are read from

The number of rows is read from the answer to another statement: one row that holds the number, or,
if the statement has a GROUP BY clause, one row for each group.  Which of the two is expected is
decided by the list of groups of the query, whereas a list that holds a bare `*`, or only columns
without text, is written as no clause (`groupClause_eq_empty_iff`).  So the answer is taken for
what it is except in this case (`Query.countsAsSent_iff`). -/

namespace FluentSql

/-! ### Columns without text -/

/-- Whether a column has no text: it selects nothing, or a raw piece of SQL that is empty, and has
no functions. -/
def Column.isEmpty : Column → Bool
  | ⟨none, _, []⟩ => true
  | ⟨some (.value (.raw sql)), _, []⟩ => sql = ""
  | _ => false

theorem Layout.positionalText_ne_empty (wholeEnd : String) (d : Decimal) :
    positionalText wholeEnd d ≠ "" := by
  unfold positionalText
  split
  · simp [← String.toList_eq_nil_iff, Nat.toDigits_ne_nil]
  · simp [← String.toList_eq_nil_iff]

theorem Binary64.sqlText_ne_empty (x : Binary64) : x.sqlText ≠ "" := by
  unfold sqlText positionalOr
  cases x.view with
  | nan => decide
  | infinite negative => cases negative <;> decide
  | finite negative significand exponent =>
      have hdecimal := Layout.positionalText_ne_empty ""
        (Decimal.shortest Layout.sql.tie significand exponent)
      simp only [Layout.finiteText, Layout.decimalText_sql]
      split <;> split <;> simp_all [← String.toList_eq_nil_iff]

theorem Identifier.quotePart_ne_nil (cs : List Char) : quotePart cs ≠ [] := by
  have hname : ∀ cs, quoteName cs ≠ [] := by
    intro cs
    unfold quoteName
    split
    · rename_i hstar
      simp [hstar]
    · exact List.cons_ne_nil _ _
  unfold quotePart
  split
  · simp [hname]
  · exact hname cs

theorem Identifier.quoted_ne_empty (id : Identifier) : id.quoted ≠ "" := by
  have hchars : quoteChars id.raw.toList ≠ [] := by
    unfold quoteChars
    split
    · exact quotePart_ne_nil _
    · have hpieces : pieces id.raw.toList ≠ [] := List.splitOn_ne_nil _ _
      refine intercalate_ne_nil _ (by simpa using hpieces) ?_
      simp [quotePart_ne_nil]
  rwa [quoted, ne_eq, ← String.toList_eq_nil_iff, String.toList_ofList]

theorem intText_ne_empty (n : Int) : toString n ≠ "" := by
  cases n with
  | ofNat n => exact natText_ne_empty n
  | negSucc n =>
      rw [toString_negSucc]
      simp [← String.toList_eq_nil_iff]

/-- A value has a text unless it is an empty raw piece of SQL. -/
theorem Value.sql_eq_empty_iff (v : Value) : v.sql = "" ↔ v = .raw "" := by
  cases v with
  | null => simp [sql]
  | bool b => cases b <;> simp [sql]
  | int n => simpa [sql] using intText_ne_empty n.toInt
  | uint n => simp [sql]
  | float x => simpa [sql] using x.sqlText_ne_empty
  | string s => simp [sql, ← String.toList_eq_nil_iff]
  | identifier id => simpa [sql] using id.quoted_ne_empty
  | raw sql => simp [Value.sql]
  | array items => simp [sql, ← String.toList_eq_nil_iff]

theorem ColumnFunction.applyAll_eq_empty_iff (fs : List ColumnFunction) :
    ∀ (previous : Option ColumnFunction) (inner : String),
      applyAll previous inner fs = "" ↔ inner = "" ∧ fs = [] := by
  induction fs with
  | nil => simp [applyAll]
  | cons f fs ih =>
      intro previous inner
      have hlength := f.two_le_length_apply previous inner
      have hne : f.apply previous inner ≠ "" := by
        intro h
        rw [h] at hlength
        exact absurd hlength (by decide)
      simp [applyAll, ih, hne]

theorem aliased_eq_empty_iff (sql : String) (aliasName : Option Identifier) :
    aliased sql aliasName = "" ↔ sql = "" := by
  cases aliasName with
  | none => rfl
  | some a =>
      by_cases h : sql = "" <;> simp [aliased, h]

theorem parenthesized_ne_empty (sql : String) : parenthesized sql ≠ "" := by
  simp [parenthesized, ← String.toList_eq_nil_iff]

/-- A column is written as nothing exactly when it is empty. -/
theorem Column.toSql_eq_empty_iff (c : Column) : c.toSql = .ok "" ↔ c.isEmpty := by
  obtain ⟨source, aliasName, functions⟩ := c
  have hsource : ColumnSource.toSqlOrNothing source = .ok "" ↔
      source = none ∨ source = some (.value (.raw "")) := by
    simp [ColumnSource.toSqlOrNothing_eq_ok_iff parenthesized_ne_empty, Value.sql_eq_empty_iff]
  have hempty : Column.isEmpty ⟨source, aliasName, functions⟩ ↔
      (source = none ∨ source = some (.value (.raw ""))) ∧ functions = [] := by
    unfold Column.isEmpty
    split
    · rename_i h
      cases h
      simp
    · rename_i h
      cases h
      simp
    · rename_i hnone hraw
      refine iff_of_false (by decide) ?_
      rintro ⟨rfl | rfl, rfl⟩
      · exact hnone _ rfl
      · exact hraw _ _ rfl
  rw [hempty, ← hsource, Column.toSql_eq]
  cases ColumnSource.toSqlOrNothing source with
  | error e => simp [Except.map]
  | ok inner => simp [Except.map, aliased_eq_empty_iff, ColumnFunction.applyAll_eq_empty_iff]

/-! ### Grouping -/

theorem Text.commaList_ne_empty {ss : List String} (hne : ss ≠ []) (h : ∀ s ∈ ss, s ≠ "") :
    commaList ss ≠ "" := by
  rw [ne_eq, ← String.toList_eq_nil_iff, commaList, String.toList_intercalate]
  refine intercalate_ne_nil _ (by simpa using hne) ?_
  simpa using h

theorem groupClause_some_eq_empty_iff (sqls : List String) :
    groupClause (some sqls) = "" ↔ ∀ sql ∈ sqls, sql = "" := by
  rw [groupClause, Text.clause_eq_empty_iff]
  by_cases hnil : sqls.filter (· ≠ "") = []
  · rw [hnil]
    exact iff_of_true rfl (by simpa using hnil)
  · have htext := Text.commaList_ne_empty hnil (by simp)
    exact iff_of_false htext (by simpa using hnil)

theorem Column.forall_text_eq_empty_iff {columns : List Column} {sqls : List String}
    (h : List.Forall₂ (fun c sql => Column.toSql c = .ok sql) columns sqls) :
    (∀ sql ∈ sqls, sql = "") ↔ columns.all Column.isEmpty := by
  induction h with
  | nil => simp
  | @cons c sql _ _ hsql _ ih =>
      have hc : sql = "" ↔ c.isEmpty := by
        rw [← toSql_eq_empty_iff, hsql, Except.ok.injEq]
      rw [List.forall_mem_cons, ih, hc, List.all_cons, Bool.and_eq_true]

/-- A list of groups has no clause if one of them is a bare `*`, or if no group has text. -/
theorem groupClause_eq_empty_iff {groups : List Column} {texts : Option (List String)}
    (h : Column.toSqlGroups groups = .ok texts) :
    groupClause texts = "" ↔ groups.any Column.isStar ∨ groups.all Column.isEmpty := by
  rcases Column.toSqlGroups_eq_ok h with ⟨hany, rfl⟩ | ⟨hany, sqls, rfl, hsqls⟩
  · exact iff_of_true rfl (.inl hany)
  · rw [groupClause_some_eq_empty_iff, Column.forall_text_eq_empty_iff hsqls]
    exact (or_iff_right hany).symm

/-! ### The clauses that are sent -/

theorem Clause.mem_ofSet {c d : Clause} {isSet : Bool} : d ∈ c.ofSet isSet ↔ d = c ∧ isSet := by
  cases isSet <;> simp [ofSet]

theorem Clause.mem_ofFragment {c d : Clause} {x : Except QueryError String} :
    d ∈ Clause.ofFragment c x ↔ d = c ∧ ∃ body, x = .ok body ∧ body ≠ "" := by
  cases x with
  | error e => simp [ofFragment]
  | ok body => by_cases h : body = "" <;> simp [ofFragment, ofText, h]

theorem map_eq_ok_iff {α β : Type} {g : α → β} {x : Except QueryError α} {b : β} :
    g <$> x = .ok b ↔ ∃ a, x = .ok a ∧ g a = b := by
  cases x <;> simp [Functor.map, Except.map]

namespace Query

variable {q : Query} {sql : String}

/-- A query without unions has a GROUP BY clause if its list of groups is written as one. -/
theorem groups_mem_clauses_iff (hq : q.unions = []) :
    .groups ∈ q.clauses ↔
      ∃ texts, Column.toSqlGroups q.groups = .ok texts ∧ groupClause texts ≠ "" := by
  obtain ⟨columns, fromClause, sample, arrayJoin, joins, preWheres, wheres, groups, havings, orders,
    limitBy, limit, unions, format, siblings, tables, settings, cluster, fault⟩ := q
  obtain rfl : unions = [] := hq
  simp [clauses, unionClauses, Clause.mem_ofSet, Clause.mem_ofFragment, ArrayJoin.clause,
    Join.clause, map_eq_ok_iff]

theorem orders_mem_clauses_iff (hq : q.unions = []) : .orders ∈ q.clauses ↔ q.orders ≠ [] := by
  obtain ⟨columns, fromClause, sample, arrayJoin, joins, preWheres, wheres, groups, havings, orders,
    limitBy, limit, unions, format, siblings, tables, settings, cluster, fault⟩ := q
  obtain rfl : unions = [] := hq
  simp [clauses, unionClauses, Clause.mem_ofSet, Clause.mem_ofFragment, ArrayJoin.clause,
    Join.clause]

/-- The groups of a query that is written are written. -/
theorem exists_toSqlGroups (h : q.toSql = .ok sql) :
    ∃ texts, Column.toSqlGroups q.groups = .ok texts := by
  obtain ⟨_, ht, -⟩ := toSql_eq_ok_iff.mp h
  exact ⟨_, ht.groups⟩

/-- The rows of a query are counted in place, unless a union or a LIMIT BY clause decides which
rows there are. -/
def CountsInPlace (q : Query) : Prop := q.unions = [] ∧ q.limitBy = none

theorem countOf_of_inPlace (h : q.CountsInPlace) (column : Identifier) :
    q.countOf column =
      { q with
        columns := [countColumn column]
        orders := if q.groups = [] then [] else q.orders
        limit := none
        siblings := [] } := by
  have hinner : (q.forCounting.unions.isEmpty && q.forCounting.limitBy.isNone) = true := by
    simpa [forCounting, CountsInPlace] using h
  simp only [countOf, hinner, if_true]
  simp [forCounting]

theorem countOf_of_not_inPlace (h : ¬ q.CountsInPlace) (column : Identifier) :
    q.countOf column =
      { columns := [countColumn column]
        fromClause := some
          { table := some (.query
              { q with
                limit := none, siblings := [], orders := [], tables := KeyMap.empty
                format := none }) }
        tables := q.tables
        settings := q.settings
        format := q.format } := by
  have hinner : ¬ (q.forCounting.unions.isEmpty && q.forCounting.limitBy.isNone) = true := by
    simpa [forCounting, CountsInPlace] using h
  simp only [countOf, hinner]
  rfl

theorem unions_countQuery (q : Query) : q.countQuery.unions = [] := by
  by_cases h : q.CountsInPlace
  · rw [countQuery, countOf_of_inPlace h]
    exact h.1
  · rw [countQuery, countOf_of_not_inPlace h]

theorem isRawFree_countQuery (hq : q.isRawFree) : q.countQuery.isRawFree := by
  obtain ⟨columns, fromClause, sample, arrayJoin, joins, preWheres, wheres, groups, havings, orders,
    limitBy, limit, unions, format, siblings, tables, settings, cluster, fault⟩ := q
  have hcolumn : (countColumn ⟨"*"⟩).isRawFree := rfl
  simp only [isRawFree, Bool.and_eq_true] at hq
  by_cases h : CountsInPlace ⟨columns, fromClause, sample, arrayJoin, joins, preWheres, wheres,
    groups, havings, orders, limitBy, limit, unions, format, siblings, tables, settings, cluster,
    fault⟩
  · rw [countQuery, countOf_of_inPlace h]
    have horders : Order.isRawFreeList (if groups = [] then [] else orders) := by
      split
      · rfl
      · simp [hq]
    simp [isRawFree, Column.isRawFreeList, hcolumn, horders, hq]
  · rw [countQuery, countOf_of_not_inPlace h]
    simp [isRawFree, Column.isRawFreeList, hcolumn, FromClause.isRawFreeOption,
      TableSource.isRawFreeOption, TableSource.isRawFree, ArrayJoin.isRawFreeOption,
      Join.isRawFreeList, Predicate.isRawFreeList, Order.isRawFreeList, LimitBy.isRawFreeOption,
      isRawFreeList, hq]

/-- The query gives up its groups, and is counted in place. -/
def LosesGrouping (q : Query) : Prop :=
  q.CountsInPlace ∧ q.groups ≠ [] ∧ (q.groups.any Column.isStar ∨ q.groups.all Column.isEmpty)

/-- The count query has a GROUP BY clause if it has groups, unless these are given up. -/
theorem groups_mem_clauses_countQuery_iff (h : q.countQuery.toSql = .ok sql) :
    .groups ∈ q.countQuery.clauses ↔ q.countQuery.groups ≠ [] ∧ ¬ q.LosesGrouping := by
  obtain ⟨texts, htexts⟩ := exists_toSqlGroups h
  have hempty := groupClause_eq_empty_iff htexts
  have hclause : .groups ∈ q.countQuery.clauses ↔
      ¬ (q.countQuery.groups.any Column.isStar ∨ q.countQuery.groups.all Column.isEmpty) := by
    rw [groups_mem_clauses_iff q.unions_countQuery, htexts, ← hempty]
    simp
  rw [hclause]
  by_cases hplace : q.CountsInPlace
  · have hgroups : q.countQuery.groups = q.groups := by
      rw [countQuery, countOf_of_inPlace hplace]
    rw [hgroups]
    unfold LosesGrouping
    by_cases hnil : q.groups = [] <;> simp [hplace, hnil]
  · have hgroups : q.countQuery.groups = [] := by
      rw [countQuery, countOf_of_not_inPlace hplace]
    simp [hgroups]

/-- The count query has an ORDER BY clause only if it has groups. -/
theorem groups_countQuery_ne_nil_of_orders (h : .orders ∈ q.countQuery.clauses) :
    q.countQuery.groups ≠ [] := by
  have horders := (orders_mem_clauses_iff q.unions_countQuery).mp h
  by_cases hplace : q.CountsInPlace
  · rw [countQuery, countOf_of_inPlace hplace] at horders ⊢
    intro hgroups
    exact horders (if_pos hgroups)
  · rw [countQuery, countOf_of_not_inPlace hplace] at horders
    exact absurd rfl horders

/-! ### Clauses in the text -/

/-- The text of a query without unions shows a clause outside brackets exactly when it has it. -/
theorem outline_words_iff (hq : q.isRawFree) (hsql : q.toSql = .ok sql) :
    ∃ ls ws, Lexeme.read? sql = some ls ∧ Lexeme.outline? ls = some ws ∧
      ("GROUP" ∈ ws ↔ .groups ∈ q.clauses) ∧ ("ORDER" ∈ ws ↔ .orders ∈ q.clauses) := by
  obtain ⟨_, -, ts, ⟨hread, -⟩, hscan⟩ := (q.alike_toSql (f := id) hq).of_ok hsql
  have hgroups : ∀ c : Clause, "GROUP" ∈ c.words ↔ c = .groups := by
    intro c
    cases c <;> simp [Clause.words]
  have horders : ∀ c : Clause, "ORDER" ∈ c.words ↔ c = .orders := by
    intro c
    cases c <;> simp [Clause.words]
  refine ⟨Lexeme.ofTokens [] ts, _, ?_, Lexeme.outline?_eq_some hscan, ?_, ?_⟩
  · rw [Lexeme.read?, hread]
    rfl
  · simp [List.mem_flatMap, hgroups]
  · simp [List.mem_flatMap, horders]

end Query

/-! ### Answers -/

/-- The unsigned integer that a value stands for: itself, or what its text writes. -/
def Json.unsigned? : Json → Option Nat
  | .int n => if 0 ≤ n then some n.toNat else none
  | .string s => Text.unsigned? s
  | _ => none

theorem parseCount_of_unsigned? {v : Json} {n : Nat} (h : v.unsigned? = some n) :
    parseCount v = .ok n := by
  cases v with
  | int m =>
      rw [Json.unsigned?] at h
      split at h
      · rename_i hm
        rw [parseCount, if_pos hm, Option.some.inj h]
      · cases h
  | string s =>
      rw [Json.unsigned?] at h
      rw [parseCount, h]
  | _ => cases h

theorem parseCount_of_unsigned?_eq_none {v : Json} (h : v.unsigned? = none) :
    ∃ fault, parseCount v = .error (.decode fault) := by
  cases v with
  | int m =>
      rw [Json.unsigned?] at h
      split at h
      · cases h
      · rename_i hm
        exact ⟨_, by rw [parseCount, if_neg hm]⟩
  | string s =>
      rw [Json.unsigned?] at h
      exact ⟨_, by rw [parseCount, h]⟩
  | _ => exact ⟨_, rfl⟩

/-- What rows tell of a number of rows: of groups each row is one, and else the first row holds the
number in its column `count`. -/
inductive TellsCount (grouped : Prop) (rows : RowSet) : Except Halt Nat → Prop
  | groups (hg : grouped) : TellsCount grouped rows (.ok rows.length)
  | nothing (hg : ¬ grouped) (h : (rows.head?.bind fun row => row.get? "count") = none) :
      TellsCount grouped rows (.ok 0)
  | number (hg : ¬ grouped) {v : Json} {n : Nat}
      (h : (rows.head?.bind fun row => row.get? "count") = some v) (hv : v.unsigned? = some n) :
      TellsCount grouped rows (.ok n)
  | noNumber (hg : ¬ grouped) {v : Json} (fault : DecodeFault)
      (h : (rows.head?.bind fun row => row.get? "count") = some v) (hv : v.unsigned? = none) :
      TellsCount grouped rows (.error (.failed (.decode fault)))

theorem tellsCount_countIn {grouped : Bool} {rows : RowSet} {p : Prop} (hp : p ↔ grouped) :
    TellsCount p rows ((countIn grouped rows).mapError Halt.failed) := by
  cases grouped with
  | true => exact .groups (hp.mpr rfl)
  | false =>
      have hg : ¬ p := by simp [hp]
      cases hv : rows.head?.bind fun row => row.get? "count" with
      | none =>
          rw [countIn, hv]
          exact .nothing hg hv
      | some v =>
          rw [countIn, hv]
          cases hn : v.unsigned? with
          | some n =>
              simp only [parseCount_of_unsigned? hn]
              exact .number hg hv hn
          | none =>
              obtain ⟨fault, hfault⟩ := parseCount_of_unsigned?_eq_none hn
              simp only [hfault]
              exact .noNumber hg fault hv hn

/-- A client that has the same rows for every query. -/
def Client.constant (rows : RowSet) : Client Unit where
  select _ s := (.now (.ok rows), s)
  write _ _ s := (.now (.ok true), s)

namespace Query

variable {q : Query} {c : CompiledQuery} {σ : Type}

theorem get_eq (hc : q.compile = .ok c) {client : Client σ} {s s' : σ} {rows : RowSet}
    (hselect : client.select c s = (.now (.ok rows), s')) : q.get client s = (.ok rows, s') := by
  have hawait : Session.await (client.select c) s = (.ok rows, s') := by
    rw [Session.await, hselect]
  rw [get, hc]
  exact hawait

/-- The number of rows is read from the answer to the count query. -/
theorem count_eq (hc : q.countQuery.compile = .ok c) {client : Client σ} {s s' : σ} {rows : RowSet}
    (hselect : client.select c s = (.now (.ok rows), s')) :
    q.count client s =
      ((countIn (!q.countQuery.groups.isEmpty) rows).mapError Halt.failed, s') := by
  have hget := get_eq hc hselect
  rw [count, Session.bind_apply, hget]
  exact Session.ofExcept_eq _ s'

/-- The answer to the count query `c` is taken for what the clauses of that query say it is, and
the query is not sorted without being grouped. -/
structure CountsAsSent (q : Query) (c : CompiledQuery) : Prop where
  answer : ∀ {σ : Type} (client : Client σ) (s s' : σ) (rows : RowSet),
    client.select c s = (.now (.ok rows), s') →
      ∃ r, q.count client s = (r, s') ∧ TellsCount (.groups ∈ q.countQuery.clauses) rows r
  orders : .orders ∈ q.countQuery.clauses → .groups ∈ q.countQuery.clauses

/-- One row is counted as one group, whatever number it holds. -/
theorem not_countsAsSent_of_groups (hc : q.countQuery.compile = .ok c)
    (hgroups : q.countQuery.groups ≠ []) (hsent : .groups ∉ q.countQuery.clauses) :
    ¬ q.CountsAsSent c := by
  rintro ⟨hanswer, -⟩
  let rows : RowSet := [KeyMap.ofList [("count", .int 5)]]
  have hcell : (rows.head?.bind fun row => row.get? "count") = some (.int 5) := rfl
  have hone : q.count (Client.constant rows) () = (.ok 1, ()) := by
    have hselect : (Client.constant rows).select c () = (.now (.ok rows), ()) := rfl
    have hcount := count_eq hc hselect
    have hgrouped : (!q.countQuery.groups.isEmpty) = true := by simpa using hgroups
    rw [hcount, hgrouped]
    rfl
  obtain ⟨r, hr, htells⟩ := hanswer (Client.constant rows) () () rows rfl
  obtain rfl : .ok 1 = r := (Prod.mk.inj (hone.symm.trans hr)).1
  cases htells with
  | groups hg => exact hsent hg
  | number _ h hv =>
      rw [hcell] at h
      cases h
      cases hv

/-- **The answer to a count query is taken for what it is unless the grouping is lost.**  The
number of rows is read as the clauses of the count query say, whatever the client answers, and that
query has no ORDER BY without a GROUP BY clause, unless the query is counted in place and
has groups that are written as no clause.  Without raw SQL these clauses are the ones that
the text of the count query shows outside brackets. -/
theorem countsAsSent_iff (hc : q.countQuery.compile = .ok c) :
    (q.CountsAsSent c ↔ ¬ q.LosesGrouping) ∧
      (q.isRawFree → ∃ ls ws, Lexeme.read? c.sql = some ls ∧ Lexeme.outline? ls = some ws ∧
        ("GROUP" ∈ ws ↔ .groups ∈ q.countQuery.clauses) ∧
        ("ORDER" ∈ ws ↔ .orders ∈ q.countQuery.clauses)) := by
  have hsql := (compile_eq_ok_iff.mp hc).1
  have hgroups := groups_mem_clauses_countQuery_iff hsql
  refine ⟨⟨fun hcounts hloses => ?_, fun hkeeps => ⟨?_, ?_⟩⟩,
    fun hq => outline_words_iff (isRawFree_countQuery hq) hsql⟩
  · have hne : q.countQuery.groups ≠ [] := by
      rw [countQuery, countOf_of_inPlace hloses.1]
      exact hloses.2.1
    have hsent : .groups ∉ q.countQuery.clauses := by
      rw [hgroups]
      simp [hloses]
    exact not_countsAsSent_of_groups hc hne hsent hcounts
  · intro σ client s s' rows hselect
    refine ⟨_, count_eq hc hselect, tellsCount_countIn ?_⟩
    rw [hgroups]
    simp [hkeeps]
  · intro horders
    exact hgroups.mpr ⟨groups_countQuery_ne_nil_of_orders horders, hkeeps⟩

/-- The rows of a query that is grouped by a column and sorted are its groups. -/
theorem countsAsSent_groupBy_column :
    let q := build [.setFrom { table := some (.name ⟨"t"⟩) },
      .groupBy [.named (.value (.identifier ⟨"a"⟩))],
      .addOrder (.named (.value (.identifier ⟨"a"⟩))) none none]
    let c : CompiledQuery :=
      { sql := "SELECT count() AS `count` FROM `t` GROUP BY `a` ORDER BY `a`" }
    q.countQuery.compile = .ok c ∧ q.CountsAsSent c := by
  intro q c
  have hc : q.countQuery.compile = .ok c := rfl
  refine ⟨hc, (countsAsSent_iff hc).1.mpr ?_⟩
  rintro ⟨-, -, h⟩
  exact absurd h (by decide)

/-- Grouping by no item at all asks for groups and sends none: of an answer that the query has five
rows its single row is counted. -/
theorem not_countsAsSent_groupBy_nothing :
    let q := build [.setFrom { table := some (.name ⟨"t"⟩) }, .groupBy []]
    let c : CompiledQuery := { sql := "SELECT count() AS `count` FROM `t`" }
    q.countQuery.compile = .ok c ∧
      q.count (Client.constant [KeyMap.ofList [("count", .int 5)]]) () = (.ok 1, ()) ∧
      ¬ q.CountsAsSent c := by
  intro q c
  have hc : q.countQuery.compile = .ok c := rfl
  have hclauses : q.countQuery.clauses = [.columns, .fromClause] := rfl
  refine ⟨hc, rfl, not_countsAsSent_of_groups hc (List.cons_ne_nil _ _) ?_⟩
  rw [hclauses]
  decide

end Query

end FluentSql
