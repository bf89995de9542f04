import FluentSql.Proofs.CountQuery
import FluentSql.Proofs.Precheck

/-! # The order of pages and of their calls

A page is refused before any call if it has no rows or if its window does not fit in 64 bits.  Else
the rows are counted, and only if there is a number of them the rows of the window are asked for
(`Query.ReadsPage`).  The pages lie side by side: each row that is counted is on exactly one of
them, and there are more pages exactly if there are more rows (`Page.Tiles`). -/

namespace FluentSql

/-! ### Numbers of pages -/

theorem toNat_pageNumber (page : UInt64) : (pageNumber page).toNat = max page.toNat 1 := by
  unfold pageNumber
  split
  · rename_i hzero
    rw [hzero]
    rfl
  · rename_i hpage
    have hpos : page.toNat ≠ 0 := fun hzero => hpage (UInt64.toNat_inj.mp hzero)
    omega

theorem isPage_iff (page perPage : UInt64) :
    IsPage page perPage ↔
      ¬ (perPage = 0 ∨ UInt64.size ≤ perPage.toNat * (max page.toNat 1 - 1)) := by
  rw [IsPage, rowsBefore, toNat_pageNumber, not_or, Nat.not_le]

/-- There is a page behind another one exactly if there are rows behind it. -/
theorem lt_lastPage_iff {total perPage n : Nat} (h : perPage ≠ 0) (hn : 1 ≤ n) :
    n < lastPage total perPage ↔ n * perPage < total := by
  rw [Nat.mul_comm]
  constructor
  · intro hlast
    rcases mul_lt_of_lt_lastPage h hlast with hzero | hlt
    · omega
    · exact hlt
  · intro hlt
    have hall := le_mul_lastPage total h
    exact Nat.lt_of_mul_lt_mul_left (Nat.lt_of_lt_of_le hlt hall)

/-- Each row is on one page. -/
theorem existsUnique_page {total perPage i : Nat} (h : perPage ≠ 0) (hi : i < total) :
    ∃! n, (1 ≤ n ∧ n ≤ lastPage total perPage) ∧ perPage * (n - 1) ≤ i ∧ i < perPage * n := by
  have hpos := Nat.pos_of_ne_zero h
  have hlow : perPage * (i / perPage) ≤ i := Nat.mul_div_le i perPage
  have hlast : i / perPage < lastPage total perPage := by
    have hall := le_mul_lastPage total h
    exact Nat.lt_of_mul_lt_mul_left (Nat.lt_of_le_of_lt hlow (Nat.lt_of_lt_of_le hi hall))
  refine ⟨i / perPage + 1, ⟨⟨Nat.le_add_left 1 _, hlast⟩, hlow, Nat.lt_mul_div_succ i hpos⟩, ?_⟩
  rintro n ⟨⟨hn, -⟩, hfrom, hto⟩
  have hge : n - 1 ≤ i / perPage := (Nat.le_div_iff_mul_le hpos).mpr (by rwa [Nat.mul_comm])
  have hlt : i / perPage < n := (Nat.div_lt_iff_lt_mul hpos).mpr (by rwa [Nat.mul_comm])
  exact (Nat.sub_eq_iff_eq_add hn).mp (Nat.le_antisymm hge (Nat.le_sub_one_of_lt hlt))

/-- The page is the one that is asked for, and the pages lie side by side on the rows. -/
structure Page.Tiles (p : Page) (page perPage : UInt64) : Prop where
  perPage_eq : p.perPage = perPage
  current : p.current.toNat = max page.toNat 1
  one_le_last : 1 ≤ p.last
  hasMore_iff : p.hasMore ↔ p.current.toNat * perPage.toNat < p.total
  existsUnique_page : ∀ i < p.total,
    ∃! n, (1 ≤ n ∧ n ≤ p.last) ∧ perPage.toNat * (n - 1) ≤ i ∧ i < perPage.toNat * n

namespace Query

open Session

variable {σ : Type} {q : Query} {page perPage : UInt64} {sql : String} {c d : CompiledQuery}

/-! ### The statements of a page -/

/-- Between its two ends the text of a query has room for a LIMIT clause. -/
theorem exists_toSql_setLimit (hsql : q.toSql = .ok sql) :
    ∃ front back, toSql { q with limit := none } = .ok (front ++ back) ∧
      ∀ l, (q.setLimit l).toSql = .ok (front ++ (" " ++ l.sql ++ back)) := by
  obtain ⟨us, hus⟩ := exists_toSqlList_unions hsql
  obtain ⟨core, -, htext⟩ := exists_text_withEnd hsql
  refine ⟨core, Text.spaced (unionClause us) ++ Text.spaced (formatClause q.format), ?_,
    fun l => ?_⟩
  · have hnone := htext none q.unions us q.format hus
    have hempty : Text.spaced (limitClause none) = "" := rfl
    rw [hempty, String.append_empty, String.append_assoc] at hnone
    exact hnone
  · have hsome := htext (some l) q.unions us q.format hus
    have hne : l.sql ≠ "" := by
      unfold RowLimit.sql
      split <;> simp [← String.toList_eq_nil_iff]
    have hlimit : Text.spaced (limitClause (some l)) = " " ++ l.sql := if_neg hne
    rw [hlimit] at hsome
    simp only [String.append_assoc] at hsome ⊢
    exact hsome

theorem exists_compile_countQuery (hsql : q.toSql = .ok sql) :
    ∃ c, q.countQuery.compile = .ok c := by
  obtain ⟨count, hcount⟩ := exists_toSql_countQuery hsql
  exact ⟨⟨count, _, _⟩, compile_eq_ok_iff.mpr ⟨hcount, rfl, rfl⟩⟩

/-! ### The calls of a page -/

theorem calls_get (hd : q.compile = .ok d) (client : Client σ) (s : Recorded σ) :
    (q.get client.recorded s).2.calls = s.calls ++ [.select d] := by
  rw [get_recorded hd]

theorem calls_count (hc : q.countQuery.compile = .ok c) {client : Client σ} {s t : Recorded σ}
    {r : Except Halt Nat} (h : q.count client.recorded s = (r, t)) :
    t.calls = s.calls ++ [.select c] := by
  have hget := calls_get hc client s
  rcases bind_eq_iff.mp h with ⟨e, he, -⟩ | ⟨rows, u, hrows, hr⟩
  · rwa [he] at hget
  · rw [ofExcept_eq] at hr
    obtain ⟨-, rfl⟩ := Prod.mk.inj hr
    rwa [hrows] at hget

/-- How a page is read, from the count query `c` and the query `d` for the rows of its window. -/
inductive ReadsPage (q : Query) (client : Client σ) (page perPage : UInt64) (c d : CompiledQuery)
    (s : Recorded σ) : Except Halt Page → Recorded σ → Prop
  | notCounted {h : Halt} {t : Recorded σ} (hcount : q.count client.recorded s = (.error h, t))
      (ht : t.calls = s.calls ++ [.select c]) : ReadsPage q client page perPage c d s (.error h) t
  | counted {n : Nat} {r : Except Halt Page} {t u : Recorded σ}
      (hcount : q.count client.recorded s = (.ok n, u)) (hu : u.calls = s.calls ++ [.select c])
      (hget : (q.setLimit (pageWindow page perPage)).get client.recorded u = (r.map Page.items, t))
      (ht : t.calls = s.calls ++ [.select c, .select d]) (htotal : ∀ p, r = .ok p → p.total = n) :
      ReadsPage q client page perPage c d s r t

theorem readsPage_of_paginate (h : IsPage page perPage) (hc : q.countQuery.compile = .ok c)
    (hd : (q.setLimit (pageWindow page perPage)).compile = .ok d) {client : Client σ}
    {s t : Recorded σ} {r : Except Halt Page}
    (hpage : q.paginate client.recorded page perPage s = (r, t)) :
    q.ReadsPage client page perPage c d s r t := by
  rw [q.paginate_of_isPage client.recorded h] at hpage
  rcases bind_eq_iff.mp hpage with ⟨e, hcount, rfl⟩ | ⟨n, u, hcount, hread⟩
  · exact .notCounted hcount (calls_count hc hcount)
  · have hu := calls_count hc hcount
    have hcalls := calls_get hd client u
    rw [hu, List.append_assoc] at hcalls
    rcases bind_eq_iff.mp hread with ⟨e, hget, rfl⟩ | ⟨items, v, hget, hok⟩
    · rw [hget] at hcalls
      exact .counted hcount hu hget hcalls nofun
    · rw [hget] at hcalls
      obtain ⟨rfl, rfl⟩ := Prod.mk.inj hok
      refine .counted hcount hu hget hcalls ?_
      rintro p ⟨⟩
      rfl

/-- A page that is returned lies side by side with the others. -/
theorem tiles_of_paginate {client : Client σ} {s t : σ} {p : Page}
    (hp : q.paginate client page perPage s = (.ok p, t)) : p.Tiles page perPage := by
  by_cases h : IsPage page perPage
  · rw [q.paginate_of_isPage client h] at hp
    rcases bind_eq_iff.mp hp with ⟨e, -, he⟩ | ⟨n, u, -, hread⟩
    · cases he
    rcases bind_eq_iff.mp hread with ⟨e, -, he⟩ | ⟨items, v, -, hok⟩
    · cases he
    obtain ⟨⟨⟩, -⟩ := Prod.mk.inj hok
    have hperPage : perPage.toNat ≠ 0 := fun hzero => h.1 (UInt64.toNat_inj.mp hzero)
    have hcurrent := toNat_pageNumber page
    have hone : 1 ≤ (pageNumber page).toNat := by omega
    refine ⟨rfl, hcurrent, Nat.le_max_left 1 _, ?_, fun i hi => existsUnique_page hperPage hi⟩
    rw [Page.hasMore, decide_eq_true_eq]
    exact lt_lastPage_iff hperPage hone
  · rw [q.paginate_of_not_isPage client h] at hp
    cases hp

/-- **Pages are read in order and lie side by side.**  For a query that is written: if no rows are
asked for, or if the rows before the page do not fit in 64 bits, the page is refused and the client
receives no call.  Otherwise the client receives the count query, and only if that tells a number
the query itself with the window of the page.  A page that is returned knows whether there are more
rows, and each row is on one page. -/
theorem readsPage_and_tiles (hsql : q.toSql = .ok sql) (client : Client σ) (page perPage : UInt64) :
    (perPage = 0 ∨ UInt64.size ≤ perPage.toNat * (max page.toNat 1 - 1) →
      ∀ s, q.paginate client.recorded page perPage s =
        (.error (.failed (.invalidArgument (pageFault page perPage))), s)) ∧
    (¬ (perPage = 0 ∨ UInt64.size ≤ perPage.toNat * (max page.toNat 1 - 1)) →
      ∃ c d front back, q.countQuery.compile = .ok c ∧
        (q.setLimit (pageWindow page perPage)).compile = .ok d ∧
        toSql { q with limit := none } = .ok (front ++ back) ∧
        d.sql = front ++ " LIMIT " ++ toString (perPage.toNat * (max page.toNat 1 - 1)) ++ ", " ++
          toString perPage.toNat ++ back ∧
        ∀ s r t, q.paginate client.recorded page perPage s = (r, t) →
          q.ReadsPage client page perPage c d s r t) ∧
    ∀ s p t, q.paginate client.recorded page perPage s = (.ok p, t) → p.Tiles page perPage := by
  refine ⟨fun hno s => ?_, fun hpage => ?_, fun s p t => tiles_of_paginate⟩
  · have hpage : ¬ IsPage page perPage := by
      rw [isPage_iff, not_not]
      exact hno
    rw [q.paginate_of_not_isPage _ hpage]
    rfl
  · rw [← isPage_iff] at hpage
    obtain ⟨c, hc⟩ := exists_compile_countQuery hsql
    obtain ⟨front, back, hbare, hwindow⟩ := exists_toSql_setLimit hsql
    refine ⟨c, ⟨_, q.tables.values, q.settings⟩, front, back, hc,
      compile_eq_ok_iff.mpr ⟨hwindow _, rfl, rfl⟩, hbare, ?_, ?_⟩
    · have hoffset : (UInt64.ofNat (rowsBefore page perPage)).toNat = rowsBefore page perPage :=
        UInt64.toNat_ofNat_of_lt hpage.2
      have hlimit : (pageWindow page perPage).sql = "LIMIT " ++
          toString (UInt64.ofNat (rowsBefore page perPage)).toNat ++ ", " ++
            toString perPage.toNat := rfl
      have hblank : " LIMIT " = " " ++ "LIMIT " := by decide
      rw [hoffset, rowsBefore, toNat_pageNumber] at hlimit
      simp only [hlimit, hblank, String.append_assoc]
    · intro s r t hread
      exact readsPage_of_paginate hpage hc (compile_eq_ok_iff.mpr ⟨hwindow _, rfl, rfl⟩) hread

/-- The last page of twenty-five rows of a table. -/
theorem readsPage_of_table :
    let q := build [.setFrom { table := some (.name ⟨"t"⟩) }]
    let client := Client.constant [KeyMap.ofList [("count", .int 25)]]
    let s : Recorded Unit := { client := () }
    let c : CompiledQuery := { sql := "SELECT count() AS `count` FROM `t`" }
    let d : CompiledQuery := { sql := "SELECT * FROM `t` LIMIT 20, 10" }
    ∃ p t, q.paginate client.recorded 3 10 s = (.ok p, t) ∧ t.calls = [.select c, .select d] ∧
      q.ReadsPage client 3 10 c d s (.ok p) t ∧ p.Tiles 3 10 ∧ p.total = 25 ∧ p.last = 3 := by
  intro q client s c d
  have hsql : q.toSql = .ok "SELECT * FROM `t`" := rfl
  have hrange : ¬ ((10 : UInt64) = 0 ∨
      UInt64.size ≤ (10 : UInt64).toNat * (max (3 : UInt64).toNat 1 - 1)) := by decide
  obtain ⟨-, hread, htiles⟩ := readsPage_and_tiles hsql client 3 10
  obtain ⟨c', d', -, -, hc', hd', -, -, hreads⟩ := hread hrange
  have hc : q.countQuery.compile = .ok c := by decide +kernel
  have hd : (q.setLimit (pageWindow 3 10)).compile = .ok d := by decide +kernel
  obtain rfl := Except.ok.inj (hc.symm.trans hc')
  obtain rfl := Except.ok.inj (hd.symm.trans hd')
  have hselect (e : CompiledQuery) (u : Recorded Unit) : client.recorded.select e u =
      (.now (.ok [KeyMap.ofList [("count", .int 25)]]),
        { client := (), calls := u.calls ++ [.select e] }) := rfl
  have hcount : q.count client.recorded s = (.ok 25, { client := (), calls := [.select c] }) :=
    count_eq hc (hselect c s)
  have hget := get_eq hd (hselect d { client := (), calls := [.select c] })
  have hpage := q.paginate_of_isPage client.recorded ((isPage_iff 3 10).mpr hrange)
  have hp := congrFun hpage s
  rw [bind_eq_iff.mpr (.inr ⟨25, _, hcount, bind_eq_iff.mpr (.inr ⟨_, _, hget, rfl⟩)⟩)] at hp
  exact ⟨_, _, hp, rfl, hreads s _ _ hp, htiles s _ _ hp, rfl, rfl⟩

end Query

end FluentSql
