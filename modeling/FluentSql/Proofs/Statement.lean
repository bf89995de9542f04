import FluentSql.Sql.Select
import Mathlib.Data.List.Forall2

/-! # Statements from the texts of their parts

A query is written exactly if no argument was refused and each of its parts has a text
(`PartTexts.AreOf`), and then its statement is made of these texts (`Query.toSql_eq_ok_iff`).  So a
part can be exchanged where the rest of the query stays as it is.  Parts that are lists are written
element by element (`mapM_eq_ok_iff`). -/

namespace FluentSql

/-! ### Lists of parts -/

section Lists

variable {ε α β : Type} {f : α → Except ε β}

/-- What is made of a list is made of its elements one by one. -/
theorem mapM_eq_ok_iff {xs : List α} {ys : List β} :
    xs.mapM f = .ok ys ↔ List.Forall₂ (fun x y => f x = .ok y) xs ys := by
  induction xs generalizing ys with
  | nil => simp [pure, Except.pure, eq_comm]
  | cons x xs ih =>
      rw [List.mapM_cons, List.forall₂_cons_left_iff]
      simp only [bind_eq_ok, ih, pure, Except.pure, Except.ok.injEq]
      constructor
      · rintro ⟨y, hy, ys', hys, rfl⟩
        exact ⟨y, ys', hy, hys, rfl⟩
      · rintro ⟨y, ys', hy, hys, rfl⟩
        exact ⟨y, hy, ys', hys, rfl⟩

/-- What is made of a list fails with the error of the first element that fails. -/
theorem mapM_eq_error_iff {xs : List α} {e : ε} :
    xs.mapM f = .error e ↔ ∃ front x back, xs = front ++ x :: back ∧
      (∀ y ∈ front, ∃ z, f y = .ok z) ∧ f x = .error e := by
  constructor
  · intro h
    induction xs with
    | nil => cases h
    | cons x xs ih =>
        rw [List.mapM_cons] at h
        cases hx : f x with
        | error d =>
            rw [hx] at h
            obtain rfl : d = e := Except.error.inj h
            exact ⟨[], x, xs, rfl, nofun, hx⟩
        | ok y =>
            have hxs : xs.mapM f = .error e := by
              rw [hx] at h
              cases hys : xs.mapM f with
              | error d =>
                  rw [hys] at h
                  exact congrArg Except.error (Except.error.inj h)
              | ok ys =>
                  rw [hys] at h
                  cases h
            obtain ⟨front, z, back, rfl, hfront, hz⟩ := ih hxs
            exact ⟨x :: front, z, back, rfl, List.forall_mem_cons.mpr ⟨⟨y, hx⟩, hfront⟩, hz⟩
  · rintro ⟨front, x, back, rfl, hfront, hx⟩
    induction front with
    | nil =>
        rw [List.nil_append, List.mapM_cons, hx]
        rfl
    | cons y front ih =>
        obtain ⟨⟨z, hz⟩, hrest⟩ := List.forall_mem_cons.mp hfront
        rw [List.cons_append, List.mapM_cons, hz]
        have htail := ih hrest
        rw [htail]
        rfl

/-- Each element of a list has its counterpart. -/
theorem exists_of_forall₂ {R : α → β → Prop} {xs : List α} {ys : List β}
    (h : List.Forall₂ R xs ys) {x : α} (hx : x ∈ xs) : ∃ y ∈ ys, R x y := by
  induction h with
  | nil => cases hx
  | cons hy _ ih =>
      rcases List.mem_cons.mp hx with rfl | hx
      · exact ⟨_, List.mem_cons_self, hy⟩
      · obtain ⟨y, hmem, hy⟩ := ih hx
        exact ⟨y, List.mem_cons_of_mem _ hmem, hy⟩

/-- The elements of a list have partners if and only if the list has a list of partners. -/
theorem exists_forall₂_iff {R : α → β → Prop} {xs : List α} :
    (∃ ys, List.Forall₂ R xs ys) ↔ ∀ x ∈ xs, ∃ y, R x y := by
  induction xs with
  | nil => simp
  | cons x xs ih =>
      rw [List.forall_mem_cons, ← ih]
      constructor
      · rintro ⟨ys, h⟩
        cases h with
        | cons hxy hrest => exact ⟨⟨_, hxy⟩, _, hrest⟩
      · rintro ⟨⟨y, hxy⟩, ys, hrest⟩
        exact ⟨y :: ys, .cons hxy hrest⟩

theorem forall_mem_of_forall₂ {R : α → β → Prop} {P : β → Prop} {xs : List α} {ys : List β}
    (h : List.Forall₂ R xs ys) (hR : ∀ x y, R x y → P y) : ∀ y ∈ ys, P y := by
  induction h with
  | nil => simp
  | cons hxy _ ih => exact List.forall_mem_cons.mpr ⟨hR _ _ hxy, ih⟩

theorem exists_of_mapM_eq_ok {xs : List α} {ys : List β} (h : xs.mapM f = .ok ys) {x : α}
    (hx : x ∈ xs) : ∃ y ∈ ys, f x = .ok y :=
  exists_of_forall₂ (mapM_eq_ok_iff.mp h) hx

end Lists

theorem Column.toSqlList_eq_mapM (cs : List Column) : toSqlList cs = cs.mapM toSql := by
  induction cs with
  | nil => rw [toSqlList, List.mapM_nil]
  | cons c cs ih => rw [toSqlList, List.mapM_cons, ih]

theorem Join.toSqlList_eq_mapM (js : List Join) : toSqlList js = js.mapM toSql := by
  induction js with
  | nil => rw [toSqlList, List.mapM_nil]
  | cons j js ih => rw [toSqlList, List.mapM_cons, ih]

theorem Predicate.toSqlList_eq_mapM (ps : List Predicate) :
    toSqlList ps = ps.mapM fun p => p.toSql.map (p.conjunction, ·) := by
  induction ps with
  | nil => rw [toSqlList, List.mapM_nil]
  | cons p ps ih =>
      rw [toSqlList, List.mapM_cons, ih]
      cases p.toSql <;> rfl

theorem Order.toSqlList_eq_mapM (os : List Order) : toSqlList os = os.mapM toSql := by
  induction os with
  | nil => rw [toSqlList, List.mapM_nil]
  | cons o os ih => rw [toSqlList, List.mapM_cons, ih]

theorem Query.toSqlList_eq_mapM (qs : List Query) : toSqlList qs = qs.mapM toSql := by
  induction qs with
  | nil => rw [toSqlList, List.mapM_nil]
  | cons q qs ih => rw [toSqlList, List.mapM_cons, ih]

/-- Listed columns are written one by one. -/
theorem Column.forall₂_of_toSqlList {cs : List Column} {ts : List String}
    (h : toSqlList cs = .ok ts) : List.Forall₂ (fun c t => Column.toSql c = .ok t) cs ts := by
  rw [toSqlList_eq_mapM] at h
  exact mapM_eq_ok_iff.mp h

/-- Listed queries are written one by one. -/
theorem Query.forall₂_of_toSqlList {qs : List Query} {ts : List String}
    (h : toSqlList qs = .ok ts) : List.Forall₂ (fun q t => Query.toSql q = .ok t) qs ts := by
  rw [toSqlList_eq_mapM] at h
  exact mapM_eq_ok_iff.mp h

/-! ### The parts of a query -/

/-- The texts of the parts of a query. -/
structure PartTexts where
  columns : List String
  fromClause : String
  arrayJoin : String
  joins : List String
  preWheres : List (Conjunction × String)
  wheres : List (Conjunction × String)
  groups : Option (List String)
  havings : List (Conjunction × String)
  orders : List String
  limitBy : String
  unions : List String

namespace PartTexts

/-- No argument of the query was refused, and the texts are those of its parts. -/
structure AreOf (t : PartTexts) (q : Query) : Prop where
  fault : ArgumentFault.check q.fault = .ok ()
  columns : Column.toSqlList q.columns = .ok t.columns
  fromClause : FromClause.toSqlOrNothing q.fromClause = .ok t.fromClause
  arrayJoin : ArrayJoin.toSqlOrNothing q.arrayJoin = .ok t.arrayJoin
  joins : Join.toSqlList q.joins = .ok t.joins
  preWheres : Predicate.toSqlList q.preWheres = .ok t.preWheres
  wheres : Predicate.toSqlList q.wheres = .ok t.wheres
  groups : Column.toSqlGroups q.groups = .ok t.groups
  havings : Predicate.toSqlList q.havings = .ok t.havings
  orders : Order.toSqlList q.orders = .ok t.orders
  limitBy : LimitBy.toSqlOrNothing q.limitBy = .ok t.limitBy
  unions : Query.toSqlList q.unions = .ok t.unions

/-- The pieces of the statement, in their order. -/
def pieces (t : PartTexts) (q : Query) : List String :=
  ["SELECT", selectList t.columns, t.fromClause, sampleClause q.sample, t.arrayJoin,
   joinClauses t.joins, Text.clause "PREWHERE" (linked t.preWheres),
   Text.clause "WHERE" (linked t.wheres), groupClause t.groups,
   Text.clause "HAVING" (linked t.havings), orderClauseOrNothing t.orders, t.limitBy,
   limitClause q.limit, unionClause t.unions, formatClause q.format]

end PartTexts

/-- The statement of a query is made of the texts of its parts. -/
theorem Query.toSql_eq_ok_iff {q : Query} {sql : String} :
    q.toSql = .ok sql ↔ ∃ t : PartTexts, t.AreOf q ∧ Text.fragments (t.pieces q) = sql := by
  obtain ⟨columns, fromClause, sample, arrayJoin, joins, preWheres, wheres, groups, havings, orders,
    limitBy, limit, unions, format, siblings, tables, settings, cluster, fault⟩ := q
  rw [toSql]
  simp only [bind_eq_ok]
  constructor
  · rintro ⟨_, h0, _, h1, _, h2, _, h3, _, h4, _, h5, _, h6, _, h7, _, h8, _, h9, _, h10, _, h11,
      hsql⟩
    exact ⟨⟨_, _, _, _, _, _, _, _, _, _, _⟩, ⟨h0, h1, h2, h3, h4, h5, h6, h7, h8, h9, h10, h11⟩,
      Except.ok.inj hsql⟩
  · rintro ⟨_, ⟨h0, h1, h2, h3, h4, h5, h6, h7, h8, h9, h10, h11⟩, rfl⟩
    exact ⟨_, h0, _, h1, _, h2, _, h3, _, h4, _, h5, _, h6, _, h7, _, h8, _, h9, _, h10, _, h11,
      rfl⟩

end FluentSql
