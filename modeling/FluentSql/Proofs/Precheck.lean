import FluentSql.Proofs.Paging
import FluentSql.Proofs.Recording

/-! # Malformed queries and calls

A malformed query is reported before its client is called, by every operation that compiles all
it sends before it sends anything.  A page is read in two steps, and each one compiles
its own statement just before its call: the rows are counted first, and the query that counts
them lacks parts that the query for the rows has (`Query.counted`).  So a page is reported
too late exactly if its query is malformed in these parts only
(`Query.checksFirst_and_paginate_iff`). -/

namespace FluentSql

variable {σ α β : Type}

/-! ### Errors of batches -/

namespace Reply

variable {call : β → σ → Reply σ α × σ} {e : QueryError}

/-- Calls under way together fail with the error of one of them. -/
theorem exists_of_together_error {xs : List β} : ∀ {s t : σ},
    together call xs s = (.now (.error e), t) → ∃ x u v, call x u = (.now (.error e), v) := by
  induction xs with
  | nil =>
      rintro s t ⟨⟩
  | cons x xs ih =>
      intro s t h
      rw [together] at h
      split at h
      · rename_i hx
        obtain ⟨⟨⟩, -⟩ := h
        exact ⟨x, s, _, hx⟩
      · split at h
        · cases h
        · exact ih h
      · split at h
        · cases h
        · rename_i hxs
          obtain ⟨⟨⟩, -⟩ := h
          exact ih hxs
        · cases h

/-- Calls that are taken up in turn fail with the error of one of them. -/
theorem exists_of_inTurn_error {width : Nat} {xs : List β} : ∀ {s t : σ},
    inTurn call width xs s = (.now (.error e), t) → ∃ x u v, call x u = (.now (.error e), v) := by
  induction xs with
  | nil =>
      rintro s t ⟨⟩
  | cons x xs ih =>
      intro s t h
      rw [inTurn] at h
      split at h
      · rename_i hx
        obtain ⟨⟨⟩, -⟩ := h
        exact ⟨x, s, _, hx⟩
      · split at h
        · cases h
        · exact ih h
      · cases h

theorem exists_of_batch_error {xs : List β} {s t : σ}
    (h : batch call xs s = (.now (.error e), t)) : ∃ x u v, call x u = (.now (.error e), v) := by
  unfold batch at h
  split at h
  · exact exists_of_together_error h
  · exact exists_of_inTurn_error h

end Reply

/-! ### Clients and sessions without structural errors -/

/-- The client does not answer queries with structural errors. -/
structure Client.NoStructural (client : Client σ) : Prop where
  select : ∀ c s e t, client.select c s = (.now (.error e), t) → e.isStructural = false
  selectBatch : ∀ cs s e t, client.selectBatch cs s = (.now (.error e), t) → e.isStructural = false

theorem Reply.record_eq_error {c : ClientCall} {call : σ → Reply σ α × σ} {e : QueryError}
    {s t : Recorded σ} (h : Reply.record c call s = (.now (.error e), t)) :
    call s.client = (.now (.error e), t.client) := by
  unfold record at h
  split at h
  · rename_i hcall
    obtain ⟨⟨⟩, rfl⟩ := h
    exact hcall
  · cases h

namespace Client.NoStructural

variable {client : Client σ}

protected theorem recorded (h : client.NoStructural) : client.recorded.NoStructural where
  select c s e t hs := h.select c s.client e t.client (Reply.record_eq_error hs)
  selectBatch cs s e t hs := h.selectBatch cs s.client e t.client (Reply.record_eq_error hs)

protected theorem constant (rows : RowSet) : (Client.constant rows).NoStructural where
  select := by
    rintro c s e t ⟨⟩
  selectBatch cs s e t hs := by
    obtain ⟨c, u, v, ⟨⟩⟩ := Reply.exists_of_batch_error hs

end Client.NoStructural

namespace Session

/-- The session does not end with a structural error. -/
def NeverStructural (x : Session σ α) : Prop :=
  ∀ s e t, x s = (.error (.failed e), t) → e.isStructural = false

/-- Whenever the session ends with a structural error, the client has not been called. -/
def ReportsFirst (x : Session (Recorded σ) α) : Prop :=
  ∀ s e t, x s = (.error (.failed e), t) → e.isStructural → t.calls = s.calls

namespace NeverStructural

protected theorem ofExcept {x : Except QueryError α}
    (h : ∀ e, x = .error e → e.isStructural = false) :
    NeverStructural (σ := σ) (Session.ofExcept x) := by
  intro s e t hs
  rw [ofExcept_eq] at hs
  cases x with
  | ok a => cases hs
  | error e' =>
      obtain ⟨⟨⟩, -⟩ := hs
      exact h e rfl

protected theorem pure (a : α) : NeverStructural (σ := σ) (Pure.pure a) := by
  rintro s e t ⟨⟩

protected theorem bind {x : Session σ α} {f : α → Session σ β} (hx : NeverStructural x)
    (hf : ∀ a, NeverStructural (f a)) : NeverStructural (x >>= f) := by
  intro s e t h
  rcases bind_eq_iff.mp h with ⟨_, hs, ⟨⟩⟩ | ⟨a, u, -, ha⟩
  · exact hx s e t hs
  · exact hf a u e t ha

/-- A call that is cut off ends with a timeout, which is not structural. -/
protected theorem await {call : σ → Reply σ α × σ}
    (h : ∀ s e t, call s = (.now (.error e), t) → e.isStructural = false) :
    NeverStructural (await call) := by
  intro s e t hs
  unfold await at hs
  split at hs
  · cases hs
  · rename_i hcall
    obtain ⟨⟨⟩, -⟩ := hs
    exact h s e _ hcall
  · obtain ⟨⟨⟩, -⟩ := hs
    rfl
  · cases hs

end NeverStructural

namespace ReportsFirst

protected theorem ofExcept (x : Except QueryError α) :
    ReportsFirst (σ := σ) (Session.ofExcept x) := by
  intro s e t hs _
  rw [ofExcept_eq] at hs
  rw [(Prod.mk.inj hs).2]

protected theorem fail (e : QueryError) : ReportsFirst (σ := σ) (α := α) (Session.fail e) :=
  ReportsFirst.ofExcept (.error e)

/-- What follows a session that reports first must not end with a structural error. -/
protected theorem bind {x : Session (Recorded σ) α} {f : α → Session (Recorded σ) β}
    (hx : ReportsFirst x) (hf : ∀ s a t, x s = (.ok a, t) → NeverStructural (f a)) :
    ReportsFirst (x >>= f) := by
  intro s e t h he
  rcases bind_eq_iff.mp h with ⟨_, hs, ⟨⟩⟩ | ⟨a, u, ha, hs⟩
  · exact hx s e t hs he
  · rw [hf s a u ha u e t hs] at he
    cases he

end ReportsFirst

end Session

/-- Whenever the operation ends with a structural error, the client has not been called, for any
client that does not answer with such an error itself. -/
def ChecksFirst (run : (σ : Type) → Client σ → Session σ α) : Prop :=
  ∀ {σ : Type} (client : Client σ), client.NoStructural →
    Session.ReportsFirst (run (Recorded σ) client.recorded)

/-! ### Operations with one call -/

theorem isStructural_countIn {grouped : Bool} {rows : RowSet} {e : QueryError}
    (h : countIn grouped rows = .error e) : e.isStructural = false := by
  unfold countIn at h
  split at h
  · cases h
  · split at h
    · rename_i v _
      cases hv : v.unsigned? with
      | some n => rw [parseCount_of_unsigned? hv] at h; cases h
      | none =>
          obtain ⟨fault, hfault⟩ := parseCount_of_unsigned?_eq_none hv
          obtain rfl := Except.error.inj (hfault.symm.trans h)
          rfl
    · cases h

namespace Query

open Session

variable {client : Client σ} {q : Query}

/-- A query that is written fails only as its client does. -/
theorem neverStructural_get (hclient : client.NoStructural) {sql : String}
    (hsql : q.toSql = .ok sql) : NeverStructural (q.get client) := by
  have hcompile : q.compile = .ok ⟨sql, q.tables.values, q.settings⟩ :=
    compile_eq_ok_iff.mpr ⟨hsql, rfl, rfl⟩
  refine NeverStructural.bind (.ofExcept fun e he => ?_) fun c => .await (hclient.select c)
  cases hcompile.symm.trans he

theorem reportsFirst_get (q : Query) (hclient : client.NoStructural) :
    ReportsFirst (q.get client.recorded) :=
  (ReportsFirst.ofExcept q.compile).bind fun _ c _ _ => .await (hclient.recorded.select c)

theorem reportsFirst_getBatch (q : Query) (hclient : client.NoStructural) :
    ReportsFirst (q.getBatch client.recorded) :=
  (ReportsFirst.ofExcept q.compileBatch).bind fun _ cs _ _ =>
    .await (hclient.recorded.selectBatch cs)

theorem reportsFirst_first (q : Query) (hclient : client.NoStructural) :
    ReportsFirst (q.first client.recorded) :=
  (reportsFirst_get _ hclient).bind fun _ _ _ _ => .pure _

theorem reportsFirst_count (q : Query) (hclient : client.NoStructural) :
    ReportsFirst (q.count client.recorded) :=
  (reportsFirst_get _ hclient).bind fun _ _ _ _ => .ofExcept fun _ => isStructural_countIn

/-! ### What counting leaves out -/

/-- The query without what its count query does not have: the columns, if the rows are counted in
place, and the order, unless groups are counted. -/
def counted (q : Query) : Query :=
  { q with
    columns := if q.unions.isEmpty && q.limitBy.isNone then [] else q.columns
    orders :=
      if q.unions.isEmpty && q.limitBy.isNone && !q.groups.isEmpty then q.orders else [] }

theorem faults_countColumn : (countColumn ⟨"*"⟩).faults = [] := rfl

theorem faults_counted (q : Query) : q.countQuery.faults = q.counted.faults := by
  by_cases h : q.CountsInPlace
  · have hplace : (q.unions.isEmpty && q.limitBy.isNone) = true := by
      simpa [CountsInPlace] using h
    rw [countQuery, countOf_of_inPlace h, counted, hplace]
    by_cases hgroups : q.groups = [] <;>
      simp [hgroups, faults, Column.faultsOfList, faults_countColumn]
  · have hplace : (q.unions.isEmpty && q.limitBy.isNone) = false := by
      simpa [CountsInPlace, Bool.eq_false_iff] using h
    rw [countQuery, countOf_of_not_inPlace h, counted, hplace]
    simp [faults, Column.faultsOfList, faults_countColumn, FromClause.faultsOfOption,
      FromClause.faults, TableSource.faultsOfOption, TableSource.faults, ArrayJoin.faultsOfOption,
      Join.faultsOfList, Predicate.faultsOfList, Column.faultsOfGroups, Order.faultsOfList,
      LimitBy.faultsOfOption, faultsOfList]

/-- The count query is written if nothing is wrong with what it has of the query. -/
theorem countQuery_ok_iff (q : Query) :
    (∃ sql, q.countQuery.toSql = .ok sql) ↔ q.counted.WellFormed := by
  rw [q.countQuery.reports_faults.ok_iff, faults_counted, wellFormed_iff]

/-- Rows that are counted are those of a query whose count query is written. -/
theorem counted_wellFormed_of_count {s t : σ} {n : Nat} (h : q.count client s = (.ok n, t)) :
    q.counted.WellFormed := by
  rw [← countQuery_ok_iff]
  rcases bind_eq_iff.mp h with ⟨_, -, ⟨⟩⟩ | ⟨rows, u, hrows, -⟩
  rcases bind_eq_iff.mp hrows with ⟨_, -, ⟨⟩⟩ | ⟨c, v, hc, -⟩
  rw [ofExcept_eq] at hc
  cases hcompile : q.countQuery.compile with
  | ok c => exact ⟨c.sql, (compile_eq_ok_iff.mp hcompile).1⟩
  | error e => rw [hcompile] at hc; cases hc

/-! ### Pages -/

variable {page perPage : UInt64}

theorem reportsFirst_paginate (hclient : client.NoStructural)
    (h : IsPage page perPage → q.counted.WellFormed → q.WellFormed) :
    ReportsFirst (q.paginate client.recorded page perPage) := by
  by_cases hpage : IsPage page perPage
  · rw [q.paginate_of_isPage _ hpage]
    refine (reportsFirst_count q hclient).bind fun s total t hcount => ?_
    have hcounted := counted_wellFormed_of_count hcount
    have hfaults := q.wellFormed_iff.mp (h hpage hcounted)
    obtain ⟨sql, hsql⟩ := (q.setLimit (pageWindow page perPage)).reports_faults.ok_iff.mpr
      ((faults_setLimit _).trans hfaults)
    exact (neverStructural_get hclient.recorded hsql).bind fun _ => .pure _
  · rw [q.paginate_of_not_isPage _ hpage]
    exact ReportsFirst.fail _

/-- A client that finds no rows is asked for their number before it is known that the query for
the rows is malformed. -/
theorem paginate_of_malformed (hpage : IsPage page perPage) {c : CompiledQuery} {e : QueryError}
    (hc : q.countQuery.compile = .ok c) (he : q.toSql = .error e) :
    q.paginate (Client.constant []).recorded page perPage ⟨(), []⟩ =
      (.error (.failed e), ⟨(), [.select c]⟩) := by
  have hcount : q.count (Client.constant []).recorded ⟨(), []⟩ = (.ok 0, ⟨(), [.select c]⟩) := by
    rw [count_eq hc rfl]
    cases !q.countQuery.groups.isEmpty <;> rfl
  have herror : (q.setLimit (pageWindow page perPage)).toSql = .error e := by
    rw [(q.setLimit (pageWindow page perPage)).reports_faults.error_iff, faults_setLimit,
      ← q.reports_faults.error_iff, he]
  have hget (s : Recorded Unit) :
      (q.setLimit (pageWindow page perPage)).get (Client.constant []).recorded s =
        (.error (.failed e), s) := by
    rw [get, compile, herror]
    rfl
  rw [q.paginate_of_isPage _ hpage, bind_eq_iff]
  exact .inr ⟨0, _, hcount, bind_eq_iff.mpr (.inl ⟨_, hget _, rfl⟩)⟩

theorem not_reportsFirst_paginate_of_malformed (hpage : IsPage page perPage)
    (hcounted : q.counted.WellFormed) (hq : ¬ q.WellFormed) :
    ¬ ReportsFirst (q.paginate (Client.constant []).recorded page perPage) := by
  intro hfirst
  obtain ⟨sql, hsql⟩ := q.countQuery_ok_iff.mpr hcounted
  obtain ⟨e, he⟩ : ∃ e, q.toSql = .error e := by
    cases he : q.toSql with
    | ok sql => exact absurd (q.toSql_ok_iff_wellFormed_and_error_iff.1.mp ⟨sql, he⟩) hq
    | error e => exact ⟨e, rfl⟩
  have hstructural := (q.toSql_ok_iff_wellFormed_and_error_iff.2.2 e he).1
  have hc : q.countQuery.compile =
      .ok ⟨sql, q.countQuery.tables.values, q.countQuery.settings⟩ :=
    compile_eq_ok_iff.mpr ⟨hsql, rfl, rfl⟩
  have hcalls := hfirst _ e _ (paginate_of_malformed hpage hc he) hstructural
  cases hcalls

/-- **Malformed queries are reported before the client is called, except by pages.**  Whatever the
query and the client, as long as the client does not answer with structural errors itself, the
rows, the batch, the first row and the number of rows fail with such an error before any call.  A
page that there can be does so exactly if the query is well formed when what is counted of
it is; another page always does. -/
theorem checksFirst_and_paginate_iff (q : Query) :
    ChecksFirst (fun _ client => q.get client) ∧
      ChecksFirst (fun _ client => q.getBatch client) ∧
      ChecksFirst (fun _ client => q.first client) ∧
      ChecksFirst (fun _ client => q.count client) ∧
      ∀ page perPage : UInt64,
        ChecksFirst (fun _ client => q.paginate client page perPage) ↔
          (IsPage page perPage → q.counted.WellFormed → q.WellFormed) := by
  refine ⟨fun _ => q.reportsFirst_get, fun _ => q.reportsFirst_getBatch,
    fun _ => q.reportsFirst_first, fun _ => q.reportsFirst_count, fun page perPage => ⟨?_, ?_⟩⟩
  · intro hfirst hpage hcounted
    by_contra hq
    exact not_reportsFirst_paginate_of_malformed hpage hcounted hq (hfirst _ (.constant []))
  · exact fun h _ _ hclient => reportsFirst_paginate hclient h

/-- The number of rows of a table is asked for, although the query for them has a column that
selects from no table. -/
theorem not_checksFirst_paginate_subQuery :
    let q := build [.setFrom { table := some (.name ⟨"t"⟩) },
      .select [.subQuery (build [.setFrom {}])]]
    let client := Client.constant [KeyMap.ofList [("count", .int 1)]]
    q.paginate client.recorded 1 10 ⟨(), []⟩ =
        (.error (.failed .missingFrom),
          ⟨(), [.select { sql := "SELECT count() AS `count` FROM `t`" }]⟩) ∧
      ¬ ChecksFirst (fun _ client => q.paginate client 1 10) := by
  intro q client
  have hpage : q.paginate client.recorded 1 10 ⟨(), []⟩ =
      (.error (.failed .missingFrom),
        ⟨(), [.select { sql := "SELECT count() AS `count` FROM `t`" }]⟩) := rfl
  refine ⟨hpage, fun hfirst => ?_⟩
  have hcalls := hfirst client (.constant _) _ _ _ hpage rfl
  cases hcalls

end Query

end FluentSql
