import FluentSql.Proofs.Attachment
import FluentSql.Proofs.Branches
import FluentSql.Proofs.WellFormed

/-! # Pages of the rows of a query

A page is asked for in two statements: the query that counts the rows, which takes a union as one
table, and the query with a window, which is written in front of the union.  A client that cuts the
branch in which a LIMIT clause is written (`Query.EvaluatesByBranch`) so answers each page with a
window on the first branch and with all rows of the others behind it (`Query.pageOf`).  The pages
are windows on the rows that are counted exactly if the others have no rows
(`Query.paginate_eq_and_pagesAreWindows_iff`), as in a query without unions. -/

namespace FluentSql

/-! ### Windows one after the other -/

theorem length_cutRows (offset count : Nat) (rows : RowSet) :
    (cutRows offset count rows).length = min count (rows.length - offset) := by
  rw [cutRows, List.length_take, List.length_drop]

/-- Windows of one width that follow each other. -/
theorem flatten_map_cutRows (count : Nat) (rows : RowSet) (n : Nat) :
    ((List.range n).map fun i => cutRows (count * i) count rows).flatten =
      rows.take (count * n) := by
  induction n with
  | zero => rw [Nat.mul_zero]; rfl
  | succ n ih =>
      rw [List.range_succ, List.map_append, List.flatten_append, ih, Nat.mul_succ, List.take_add]
      simp [cutRows]

/-- The number of the last page of so many rows. -/
def lastPage (total perPage : Nat) : Nat := max 1 ((total + perPage - 1) / perPage)

theorem le_mul_lastPage (total : Nat) {perPage : Nat} (h : perPage ≠ 0) :
    total ≤ perPage * lastPage total perPage := by
  have hdiv := Nat.div_add_mod (total + perPage - 1) perPage
  have hmod := Nat.mod_lt (total + perPage - 1) (Nat.pos_of_ne_zero h)
  have hmax : perPage * ((total + perPage - 1) / perPage) ≤ perPage * lastPage total perPage :=
    Nat.mul_le_mul_left perPage (Nat.le_max_right 1 _)
  omega

/-- In front of a page that is not the first one there are rows left. -/
theorem mul_lt_of_lt_lastPage {total perPage i : Nat} (h : perPage ≠ 0)
    (hi : i < lastPage total perPage) : i = 0 ∨ perPage * i < total := by
  have hcases : i < 1 ∨ i < (total + perPage - 1) / perPage := by
    unfold lastPage at hi
    omega
  rcases hcases with hi | hi
  · exact .inl (Nat.lt_one_iff.mp hi)
  · right
    have hpages := Nat.mul_le_mul_left perPage hi
    have hall := Nat.mul_div_le (total + perPage - 1) perPage
    rw [Nat.succ_eq_add_one, Nat.mul_add, Nat.mul_one] at hpages
    omega

namespace Query

variable {σ : Type} {q : Query} {client : Client σ} {rows : String → RowSet} {sql : String}

/-! ### The statements of a page -/

theorem settings_countOf (q : Query) (column : Identifier) :
    (q.countOf column).settings = q.settings := by
  unfold countOf
  dsimp only
  split <;> rfl

theorem groups_countQuery (h : q.groups = []) : q.countQuery.groups = [] := by
  unfold countQuery countOf
  dsimp only
  split
  · exact h
  · rfl

/-- With a query the query that counts its rows has a text, and so has the query with a window. -/
theorem faults_countQuery (h : q.faults = []) : q.countQuery.faults = [] := by
  obtain ⟨columns, fromClause, sample, arrayJoin, joins, preWheres, wheres, groups, havings, orders,
    limitBy, limit, unions, format, siblings, tables, settings, cluster, fault⟩ := q
  have hcolumn : Column.faultsOfList [countColumn ⟨"*"⟩] = [] := rfl
  simp only [faults, List.append_eq_nil_iff] at h
  by_cases hplace : CountsInPlace ⟨columns, fromClause, sample, arrayJoin, joins, preWheres, wheres,
    groups, havings, orders, limitBy, limit, unions, format, siblings, tables, settings, cluster,
    fault⟩
  · rw [countQuery, countOf_of_inPlace hplace]
    by_cases hgroups : groups = [] <;>
      simp [hgroups, faults, hcolumn, h, Order.faultsOfList, Column.faultsOfGroups]
  · rw [countQuery, countOf_of_not_inPlace hplace]
    simp [faults, faultsOfList, hcolumn, h, Order.faultsOfList, FromClause.faultsOfOption,
      FromClause.faults, TableSource.faultsOfOption, TableSource.faults, ArrayJoin.faultsOfOption,
      Join.faultsOfList, Predicate.faultsOfList, Column.faultsOfGroups, LimitBy.faultsOfOption]

theorem faults_setLimit (l : RowLimit) : (q.setLimit l).faults = q.faults := by
  cases q
  rfl

/-- All rows of the query, whatever its window. -/
def allRows (rows : String → RowSet) (q : Query) : RowSet :=
  ({ q with limit := none } : Query).rowsIn rows

/-- The client has the given rows for the texts of the query with what is sent along: the rows of
its branches, and their true number for the query that counts them. -/
structure AnsweredBy (q : Query) (client : Client σ) (rows : String → RowSet) : Prop where
  select : ∀ sql s, ∃ s', client.select ⟨sql, q.tables.values, q.settings⟩ s =
    (.now (.ok (rows sql)), s')
  byBranch : q.EvaluatesByBranch rows
  count : ∃ v, ((q.countQuery.rowsIn rows).head?.bind fun row => row.get? "count") = some v ∧
    v.unsigned? = some (q.allRows rows).length
  fits : (q.allRows rows).length < UInt64.size

/-- The page that is answered: a window on the first branch, and all rows of the other ones. -/
def pageOf (rows : String → RowSet) (q : Query) (perPage page : UInt64) : Page where
  items := cutRows (perPage.toNat * (page.toNat - 1)) perPage.toNat (q.firstBranch.rowsIn rows) ++
    q.unions.flatMap (rowsIn rows)
  total := (q.allRows rows).length
  perPage := perPage
  current := page
  last := lastPage (q.allRows rows).length perPage.toNat

theorem get_of_toSql (hsql : q.toSql = .ok sql) {s s' : σ}
    (hselect : client.select ⟨sql, q.tables.values, q.settings⟩ s = (.now (.ok (rows sql)), s')) :
    q.get client s = (.ok (q.rowsIn rows), s') := by
  rw [rowsIn_eq hsql]
  exact get_eq (compile_eq_ok_iff.mpr ⟨hsql, rfl, rfl⟩) hselect

theorem count_of_answeredBy (hgroups : q.groups = []) (hfaults : q.faults = [])
    (h : q.AnsweredBy client rows) (s : σ) :
    ∃ s', q.count client s = (.ok (q.allRows rows).length, s') := by
  obtain ⟨sql, hsql⟩ := q.countQuery.reports_faults.ok_iff.mpr (faults_countQuery hfaults)
  obtain ⟨s', hselect⟩ := h.select sql s
  obtain ⟨v, hv, hcount⟩ := h.count
  rw [rowsIn_eq hsql] at hv
  have hcompile : q.countQuery.compile = .ok ⟨sql, q.tables.values, q.settings⟩ :=
    compile_eq_ok_iff.mpr ⟨hsql, by rw [countQuery, tables_countOf],
      by rw [countQuery, settings_countOf]⟩
  refine ⟨s', ?_⟩
  rw [count_eq hcompile hselect, groups_countQuery hgroups]
  simp only [List.isEmpty_nil, Bool.not_true, countIn, hv, if_neg Bool.false_ne_true,
    parseCount_of_unsigned? hcount]
  rfl

theorem get_setLimit_of_answeredBy (hfaults : q.faults = []) (h : q.AnsweredBy client rows)
    (l : RowLimit) (s : σ) :
    ∃ s', (q.setLimit l).get client s =
      (.ok (RowLimit.window (some l) (q.firstBranch.rowsIn rows) ++
        q.unions.flatMap (rowsIn rows)), s') := by
  obtain ⟨sql, hsql⟩ := (q.setLimit l).reports_faults.ok_iff.mpr ((faults_setLimit l).trans hfaults)
  obtain ⟨s', hselect⟩ := h.select sql s
  refine ⟨s', ?_⟩
  rw [get_of_toSql hsql hselect, ← h.byBranch (some l)]
  rfl

/-! ### Pages -/

variable {perPage page : UInt64}

theorem paginate_of_outOfRange (hperPage : perPage ≠ 0) (hpage : page ≠ 0)
    (hrange : UInt64.size ≤ perPage.toNat * (page.toNat - 1)) (s : σ) :
    q.paginate client page perPage s =
      (.error (.failed (.invalidArgument (.pageOutOfRange page.toNat))), s) := by
  have hnumber : pageNumber page = page := if_neg hpage
  have hno : ¬ IsPage page perPage := by
    rw [IsPage, rowsBefore, hnumber]
    exact fun h => Nat.not_lt.mpr hrange h.2
  rw [q.paginate_of_not_isPage client hno, pageFault, if_neg hperPage, hnumber]
  rfl

theorem paginate_of_answeredBy (hgroups : q.groups = []) (hfaults : q.faults = [])
    (h : q.AnsweredBy client rows) (hperPage : perPage ≠ 0) (hpage : page ≠ 0)
    (hrange : perPage.toNat * (page.toNat - 1) < UInt64.size) (s : σ) :
    ∃ s', q.paginate client page perPage s = (.ok (q.pageOf rows perPage page), s') := by
  have hnumber : pageNumber page = page := if_neg hpage
  have hbefore : rowsBefore page perPage = perPage.toNat * (page.toNat - 1) := by
    rw [rowsBefore, hnumber]
  have hisPage : IsPage page perPage := ⟨hperPage, by rwa [hbefore]⟩
  have hoffset : (UInt64.ofNat (perPage.toNat * (page.toNat - 1))).toNat =
      perPage.toNat * (page.toNat - 1) := UInt64.toNat_ofNat_of_lt hrange
  obtain ⟨s₁, hcount⟩ := count_of_answeredBy hgroups hfaults h s
  obtain ⟨s₂, hget⟩ := get_setLimit_of_answeredBy hfaults h (pageWindow page perPage) s₁
  simp only [RowLimit.window, pageWindow, Option.map_some, Option.getD_some, hbefore, hoffset]
    at hget
  refine ⟨s₂, ?_⟩
  rw [q.paginate_of_isPage client hisPage, pageWindow, hbefore, hnumber]
  exact Session.bind_eq_iff.mpr
    (.inr ⟨_, s₁, hcount, Session.bind_eq_iff.mpr (.inr ⟨_, s₂, hget, rfl⟩)⟩)

/-! ### Pages as windows -/

/-- The rows of all pages are windows on the rows that are counted, and together they are these
rows. -/
structure PagesAreWindows (q : Query) (client : Client σ) (rows : String → RowSet) : Prop where
  window : ∀ (perPage page : UInt64) (s : σ), perPage ≠ 0 → page ≠ 0 →
    perPage.toNat * (page.toNat - 1) < UInt64.size →
      ∃ p s', q.paginate client page perPage s = (.ok p, s') ∧ p.items.length ≤ perPage.toNat ∧
        p.items = cutRows (perPage.toNat * (page.toNat - 1)) perPage.toNat (q.allRows rows) ∧
        p.total = (q.allRows rows).length
  all : ∀ perPage : UInt64, perPage ≠ 0 → ∃ pages : List RowSet,
    pages.flatten = q.allRows rows ∧
      ∀ (page : UInt64) (s : σ), page ≠ 0 → page.toNat ≤ pages.length →
        ∃ p s', q.paginate client page perPage s = (.ok p, s') ∧ p.last = pages.length ∧
          pages[page.toNat - 1]? = some p.items

theorem allRows_eq (h : q.AnsweredBy client rows) :
    q.allRows rows = q.firstBranch.rowsIn rows ++ q.unions.flatMap (rowsIn rows) :=
  h.byBranch none

/-- A first page of one row and a second one tell whether other branches have rows. -/
theorem unions_eq_nil_of_pagesAreWindows (hgroups : q.groups = []) (hfaults : q.faults = [])
    (h : q.AnsweredBy client rows) (s : σ) (hpages : q.PagesAreWindows client rows) :
    q.unions.flatMap (rowsIn rows) = [] := by
  have hpage (page : UInt64) (hpage : page ≠ 0)
      (hrange : (1 : UInt64).toNat * (page.toNat - 1) < UInt64.size) :
      (q.pageOf rows 1 page).items =
        cutRows ((1 : UInt64).toNat * (page.toNat - 1)) (1 : UInt64).toNat (q.allRows rows) := by
    obtain ⟨p, s', hp, -, hitems, -⟩ := hpages.window 1 page s (by decide) hpage hrange
    obtain ⟨s'', hanswer⟩ := paginate_of_answeredBy hgroups hfaults h (by decide) hpage hrange s
    obtain ⟨hok, -⟩ := Prod.mk.inj (hp.symm.trans hanswer)
    obtain rfl := Except.ok.inj hok
    exact hitems
  have hone := congrArg List.length (hpage 1 (by decide) (by decide))
  have htwo := congrArg List.length (hpage 2 (by decide) (by decide))
  have h2 : (2 : UInt64).toNat = 2 := rfl
  rw [allRows_eq h] at hone htwo
  simp only [pageOf, List.length_append, length_cutRows, UInt64.toNat_one, h2] at hone htwo
  rw [← List.length_eq_zero_iff]
  omega

theorem pagesAreWindows_of_unions_eq_nil (hgroups : q.groups = []) (hfaults : q.faults = [])
    (h : q.AnsweredBy client rows) (hunions : q.unions.flatMap (rowsIn rows) = []) :
    q.PagesAreWindows client rows := by
  have hall : q.firstBranch.rowsIn rows = q.allRows rows := by
    rw [allRows_eq h, hunions, List.append_nil]
  have hitems (perPage page : UInt64) : (q.pageOf rows perPage page).items =
      cutRows (perPage.toNat * (page.toNat - 1)) perPage.toNat (q.allRows rows) := by
    rw [pageOf, hall, hunions, List.append_nil]
  refine ⟨fun perPage page s hperPage hpage hrange => ?_, fun perPage hperPage => ?_⟩
  · obtain ⟨s', hs'⟩ := paginate_of_answeredBy hgroups hfaults h hperPage hpage hrange s
    refine ⟨_, s', hs', ?_, hitems perPage page, rfl⟩
    rw [hitems, length_cutRows]
    exact Nat.min_le_left _ _
  · have hne : perPage.toNat ≠ 0 := fun hzero => hperPage (UInt64.toNat_inj.mp hzero)
    refine ⟨(List.range (lastPage (q.allRows rows).length perPage.toNat)).map fun i =>
      cutRows (perPage.toNat * i) perPage.toNat (q.allRows rows), ?_, fun page s hpage hlast => ?_⟩
    · rw [flatten_map_cutRows, List.take_of_length_le (le_mul_lastPage _ hne)]
    · rw [List.length_map, List.length_range] at hlast
      have hpos : page.toNat ≠ 0 := fun hzero => hpage (UInt64.toNat_inj.mp hzero)
      have hindex : page.toNat - 1 < lastPage (q.allRows rows).length perPage.toNat := by omega
      have hrange : perPage.toNat * (page.toNat - 1) < UInt64.size := by
        rcases mul_lt_of_lt_lastPage hne hindex with hzero | hlt
        · rw [hzero, Nat.mul_zero]
          decide
        · exact hlt.trans h.fits
      obtain ⟨s', hs'⟩ := paginate_of_answeredBy hgroups hfaults h hperPage hpage hrange s
      refine ⟨_, s', hs', ?_, ?_⟩
      · rw [List.length_map, List.length_range]
        rfl
      · rw [hitems, List.getElem?_map, List.getElem?_range hindex]
        rfl

/-- **Pages are windows on the first branch, and windows on all rows if the others are empty.**  For
a query without groups, each page within range is answered with the window on the rows of the first
branch and all rows of the other ones, and with the true number of rows.  Page 0 is page 1, and a
page out of range is refused before the client is called.  So the pages are windows on all
rows, and make them up together, exactly if the branches of the union have no rows. -/
theorem paginate_eq_and_pagesAreWindows_iff [Nonempty σ] (hgroups : q.groups = [])
    (hsql : q.toSql = .ok sql) (h : q.AnsweredBy client rows) :
    (∀ (perPage page : UInt64) (s : σ), perPage ≠ 0 → page ≠ 0 →
      (perPage.toNat * (page.toNat - 1) < UInt64.size →
        ∃ s', q.paginate client page perPage s = (.ok (q.pageOf rows perPage page), s')) ∧
      (UInt64.size ≤ perPage.toNat * (page.toNat - 1) →
        q.paginate client page perPage s =
          (.error (.failed (.invalidArgument (.pageOutOfRange page.toNat))), s))) ∧
      (∀ (perPage : UInt64) (s : σ),
        q.paginate client 0 perPage s = q.paginate client 1 perPage s) ∧
      (q.PagesAreWindows client rows ↔ q.unions.flatMap (rowsIn rows) = []) := by
  have hfaults : q.faults = [] := q.reports_faults.ok_iff.mp ⟨sql, hsql⟩
  obtain ⟨s⟩ := ‹Nonempty σ›
  refine ⟨fun perPage page s hperPage hpage => ⟨fun hrange => ?_, fun hrange => ?_⟩,
    fun perPage s => rfl, unions_eq_nil_of_pagesAreWindows hgroups hfaults h s,
    pagesAreWindows_of_unions_eq_nil hgroups hfaults h⟩
  · exact paginate_of_answeredBy hgroups hfaults h hperPage hpage hrange s
  · exact paginate_of_outOfRange hperPage hpage hrange s

/-! ### A union of two tables -/

section TwoTables

/-- All rows of one table and then all rows of another. -/
def twoTables : Query :=
  build [.setFrom { table := some (.name ⟨"t"⟩) },
    .addUnion (some (build [.setFrom { table := some (.name ⟨"u"⟩) }]))]

theorem toSql_twoTables :
    twoTables.toSql = .ok "SELECT * FROM `t` UNION ALL SELECT * FROM `u`" := rfl

/-- The marks of a branch that selects all columns of a table. -/
def readOf (table : String) : List Mark :=
  [.outer (.word "SELECT"), .outer (.symbol '*'), .outer (.word "FROM"), .outer (.name table)]

/-- What branches mean when the tables have the rows `ts` and `us`; any other one counts them. -/
def branchOf (ts us : RowSet) (ms : List Mark) : RowSet :=
  if ms = readOf "t" then ts
  else if ms = readOf "u" then us
  else [KeyMap.ofList [("count", .int (ts.length + us.length : Nat))]]

/-- The client that evaluates texts. -/
def evaluating (rows : String → RowSet) : Client Unit where
  select c s := (.now (.ok (rows c.sql)), s)
  write _ _ s := (.now (.ok true), s)

variable {ts us : RowSet}

theorem firstBranch_twoTables : twoTables.firstBranch.rowsIn (textRows (branchOf ts us)) = ts := by
  have hsql : twoTables.firstBranch.toSql = .ok "SELECT * FROM `t`" := rfl
  have hsurface : surface? "SELECT * FROM `t`" = some (readOf "t") := rfl
  rw [rowsIn_eq hsql, textRows_of_isCore hsurface (by decide)]
  exact if_pos (by decide)

theorem unions_twoTables : twoTables.unions.flatMap (rowsIn (textRows (branchOf ts us))) = us := by
  have hunions : twoTables.unions = [build [.setFrom { table := some (.name ⟨"u"⟩) }]] := rfl
  have hsql : (build [.setFrom { table := some (.name ⟨"u"⟩) }]).toSql =
      .ok "SELECT * FROM `u`" := rfl
  have hsurface : surface? "SELECT * FROM `u`" = some (readOf "u") := rfl
  rw [hunions, List.flatMap_singleton, rowsIn_eq hsql, textRows_of_isCore hsurface (by decide)]
  exact (if_neg (by decide)).trans (if_pos (by decide))

set_option maxRecDepth 2000 in
theorem countQuery_twoTables : twoTables.countQuery.rowsIn (textRows (branchOf ts us)) =
    [KeyMap.ofList [("count", .int (ts.length + us.length : Nat))]] := by
  have hsql : twoTables.countQuery.toSql = .ok ("SELECT count() AS `count` " ++
      "FROM (SELECT * FROM `t` UNION ALL SELECT * FROM `u`)") := rfl
  have hsurface : ∃ ms, surface? ("SELECT count() AS `count` " ++
      "FROM (SELECT * FROM `t` UNION ALL SELECT * FROM `u`)") = some ms ∧ Mark.IsCore ms ∧
        ms.dropWhile (Mark.isKeyword "ALL") ≠ readOf "t" ∧
        ms.dropWhile (Mark.isKeyword "ALL") ≠ readOf "u" :=
    ⟨_, rfl, by decide, by decide, by decide⟩
  obtain ⟨ms, hms, hcore, ht, hu⟩ := hsurface
  rw [rowsIn_eq hsql, textRows_of_isCore hms hcore]
  exact (if_neg ht).trans (if_neg hu)

theorem answeredBy_twoTables (h : ts.length + us.length < UInt64.size) :
    twoTables.AnsweredBy (evaluating (textRows (branchOf ts us))) (textRows (branchOf ts us)) := by
  have hbranches : twoTables.EvaluatesByBranch (textRows (branchOf ts us)) :=
    evaluatesByBranch_textRows _ rfl toSql_twoTables
  have hall : twoTables.allRows (textRows (branchOf ts us)) = ts ++ us := by
    refine (hbranches none).trans ?_
    rw [firstBranch_twoTables, unions_twoTables]
    rfl
  refine ⟨fun _ s => ⟨s, rfl⟩, hbranches, ⟨.int (ts.length + us.length : Nat), ?_, ?_⟩, ?_⟩
  · rw [countQuery_twoTables]
    rfl
  · rw [hall, List.length_append]
    rw [Json.unsigned?, if_pos (Int.natCast_nonneg _), Int.toNat_natCast]
  · rwa [hall, List.length_append]

/-- A row with a number. -/
def numbered (n : Nat) : Row := KeyMap.ofList [("id", .int n)]

/-- Without rows in the second table the pages are windows on the rows of the first. -/
theorem pagesAreWindows_twoTables :
    let rows := textRows (branchOf [numbered 1, numbered 2] [])
    twoTables.PagesAreWindows (evaluating rows) rows := by
  intro rows
  have hanswered : twoTables.AnsweredBy (evaluating rows) rows := answeredBy_twoTables (by decide)
  obtain ⟨-, -, hwindows⟩ := paginate_eq_and_pagesAreWindows_iff rfl toSql_twoTables hanswered
  exact hwindows.mpr unions_twoTables

/-- With a row in each table, a page of one row has the row of the second table behind its
window. -/
theorem not_pagesAreWindows_twoTables :
    let rows := textRows (branchOf [numbered 1] [numbered 2])
    twoTables.AnsweredBy (evaluating rows) rows ∧
      (∃ p, twoTables.paginate (evaluating rows) 1 1 () = (.ok p, ()) ∧
        p.items = [numbered 1, numbered 2]) ∧
      ¬ twoTables.PagesAreWindows (evaluating rows) rows := by
  intro rows
  have hanswered : twoTables.AnsweredBy (evaluating rows) rows := answeredBy_twoTables (by decide)
  refine ⟨hanswered, ?_, fun hpages => ?_⟩
  · obtain ⟨s, hpage⟩ := paginate_of_answeredBy rfl rfl hanswered (by decide) (by decide)
      (by decide : (1 : UInt64).toNat * ((1 : UInt64).toNat - 1) < UInt64.size) ()
    refine ⟨_, hpage, ?_⟩
    rw [pageOf, firstBranch_twoTables, unions_twoTables]
    rfl
  · have hnil := unions_eq_nil_of_pagesAreWindows rfl rfl hanswered () hpages
    rw [unions_twoTables] at hnil
    cases hnil

end TwoTables

end Query

end FluentSql
