import FluentSql.Proofs.PageOrder

/-! # The first row of a query

A query is asked for its first row in one call, with a window of one row that takes the place of
the window that it has (`Query.first_recorded`).  If a LIMIT clause cuts the rows that the query has
without one (`Query.AnsweredWithin`), the answer is the first one of these rows, whatever the window
(`Query.exists_first`).  It is the first row in the window as well exactly if both rows are equal,
such as for a window that starts at the first row and is not empty (`Query.first_agrees_iff`). -/

namespace FluentSql

/-- The number of rows in front of a window. -/
def RowLimit.start (l : RowLimit) : Nat := (l.offset.map UInt64.toNat).getD 0

/-- The first row that is cut out is the one behind the offset. -/
theorem head?_cutRows (offset count : Nat) (rows : RowSet) :
    (cutRows offset count rows).head? = if count = 0 then none else rows[offset]? := by
  rw [cutRows, List.head?_take, List.head?_drop]

/-- When the first row in a window is the first of all rows. -/
theorem RowLimit.head?_window_eq_iff {l : Option RowLimit} {rows : RowSet} :
    (window l rows).head? = rows.head? ↔
      rows = [] ∨ ∀ w, l = some w → w.count ≠ 0 ∧ rows[w.start]? = rows.head? := by
  cases l with
  | none => simp [window]
  | some w =>
      have hcount : w.count.toNat = 0 ↔ w.count = 0 := w.count.toNat_inj (b := 0)
      have hwindow : window (some w) rows = cutRows w.start w.count.toNat rows := rfl
      rw [hwindow, head?_cutRows, if_congr hcount rfl rfl]
      cases rows with
      | nil => simp
      | cons row rows => by_cases hzero : w.count = 0 <;> simp [hzero]

namespace Query

variable {σ : Type} {q : Query} {client : Client σ} {rows : String → RowSet} {sql : String}

/-- The client has the given rows for the texts of the query with what is sent along, whatever its
window, and a LIMIT clause cuts the rows that the query has without one. -/
structure AnsweredWithin (q : Query) (client : Client σ) (rows : String → RowSet) : Prop where
  select : ∀ l sql s, toSql { q with limit := l } = .ok sql →
    ∃ s', client.select ⟨sql, q.tables.values, q.settings⟩ s = (.now (.ok (rows sql)), s')
  window : ∀ l, (q.setLimit l).rowsIn rows = RowLimit.window (some l) (q.allRows rows)

/-- The first row that is asked for on its own is the first one of all that are asked for, and there
is none exactly if these are none. -/
def FirstAgrees (q : Query) (client : Client σ) (s : σ) : Prop :=
  ∃ rows s₁ s₂, q.get client s = (.ok rows, s₁) ∧ q.first client s = (.ok rows.head?, s₂)

theorem with_limit_eq {l : Option RowLimit} (hl : q.limit = l) :
    ({ q with limit := l } : Query) = q := by
  subst hl
  cases q
  rfl

theorem rowsIn_of_answeredWithin (h : q.AnsweredWithin client rows) :
    q.rowsIn rows = RowLimit.window q.limit (q.allRows rows) := by
  cases hl : q.limit with
  | none =>
      rw [allRows, with_limit_eq hl]
      rfl
  | some l => rw [← h.window l, setLimit, with_limit_eq hl]

/-- The rows of the query are those in its window. -/
theorem exists_get (h : q.AnsweredWithin client rows) (hsql : q.toSql = .ok sql) (s : σ) :
    ∃ s', q.get client s = (.ok (RowLimit.window q.limit (q.allRows rows)), s') := by
  obtain ⟨s', hselect⟩ := h.select q.limit sql s (by rwa [with_limit_eq rfl])
  rw [← rowsIn_of_answeredWithin h]
  exact ⟨s', get_of_toSql hsql hselect⟩

/-- The first row is the first one of all rows, whatever the window of the query. -/
theorem exists_first (h : q.AnsweredWithin client rows) (hsql : q.toSql = .ok sql) (s : σ) :
    ∃ s', q.first client s = (.ok (q.allRows rows).head?, s') := by
  obtain ⟨front, back, -, hlimit⟩ := exists_toSql_setLimit hsql
  have hsql₁ := hlimit { count := 1 }
  obtain ⟨s', hselect⟩ := h.select (some { count := 1 }) _ s hsql₁
  have hget : (q.setLimit { count := 1 }).get client s = (.ok ((q.allRows rows).take 1), s') := by
    have hwindow : (q.setLimit { count := 1 }).rowsIn rows = (q.allRows rows).take 1 :=
      h.window { count := 1 }
    rw [← hwindow]
    exact get_of_toSql hsql₁ hselect
  have hhead : ((q.allRows rows).take 1).head? = (q.allRows rows).head? := List.head?_take
  refine ⟨s', ?_⟩
  rw [← hhead]
  exact Session.bind_eq_iff.mpr (.inr ⟨_, s', hget, rfl⟩)

/-- For the first row there is one call: the query with a window of one row. -/
theorem first_recorded {c : CompiledQuery} (hc : (q.setLimit { count := 1 }).compile = .ok c)
    (client : Client σ) (s : Recorded σ) :
    q.first client.recorded s =
      ((q.first client s.client).1,
        { client := (q.first client s.client).2, calls := s.calls ++ [.select c] }) := by
  simp only [first, Session.bind_apply, get_recorded hc]
  rcases (q.setLimit { count := 1 }).get client s.client with ⟨_ | _, t⟩ <;> rfl

/-- What is sent for the first row is the text of the query with `LIMIT 1` in the place of its
window. -/
theorem exists_compile_first (hsql : q.toSql = .ok sql) :
    ∃ c front back, (q.setLimit { count := 1 }).compile = .ok c ∧
      toSql { q with limit := none } = .ok (front ++ back) ∧
      c.sql = front ++ " LIMIT 1" ++ back ∧
      ∀ (client : Client σ) (s : Recorded σ), q.first client.recorded s =
        ((q.first client s.client).1,
          { client := (q.first client s.client).2, calls := s.calls ++ [.select c] }) := by
  obtain ⟨front, back, hbare, hlimit⟩ := exists_toSql_setLimit hsql
  have htext : " " ++ ({ count := 1 } : RowLimit).sql = " LIMIT 1" := by decide
  have hone : (q.setLimit { count := 1 }).toSql = .ok (front ++ " LIMIT 1" ++ back) := by
    rw [hlimit, htext, String.append_assoc]
  have hc : (q.setLimit { count := 1 }).compile = .ok ⟨_, q.tables.values, q.settings⟩ :=
    compile_eq_ok_iff.mpr ⟨hone, rfl, rfl⟩
  exact ⟨_, front, back, hc, hbare, rfl, first_recorded hc⟩

/-- A malformed query is reported by both in the same way, without a call. -/
theorem get_and_first_of_error {e : QueryError} (he : q.toSql = .error e) (client : Client σ)
    (s : σ) :
    q.get client s = (.error (.failed e), s) ∧ q.first client s = (.error (.failed e), s) := by
  have hget (q : Query) (he : q.toSql = .error e) : q.get client s = (.error (.failed e), s) := by
    rw [get, compile, he]
    rfl
  have hfirst : (q.setLimit { count := 1 }).toSql = .error e := by
    rw [(q.setLimit { count := 1 }).reports_faults.error_iff, faults_setLimit,
      ← q.reports_faults.error_iff, he]
  exact ⟨hget q he, Session.bind_eq_iff.mpr (.inl ⟨_, hget _ hfirst, rfl⟩)⟩

/-- Both agree exactly if the window has the first row in front. -/
theorem firstAgrees_iff (h : q.AnsweredWithin client rows) (hsql : q.toSql = .ok sql) (s : σ) :
    q.FirstAgrees client s ↔ q.allRows rows = [] ∨
      ∀ l, q.limit = some l →
        l.count ≠ 0 ∧ (q.allRows rows)[l.start]? = (q.allRows rows).head? := by
  obtain ⟨s₁, hget⟩ := exists_get h hsql s
  obtain ⟨s₂, hfirst⟩ := exists_first h hsql s
  rw [← RowLimit.head?_window_eq_iff, FirstAgrees, hget, hfirst]
  constructor
  · rintro ⟨_, _, _, ⟨⟩, hhead⟩
    exact (Except.ok.inj (Prod.mk.inj hhead).1).symm
  · intro hhead
    exact ⟨_, s₁, s₂, rfl, by rw [hhead]⟩

/-- **The first row is the first one without a window.**  The client receives one call: the query
with `LIMIT 1` in the place of the window that it has.  If a LIMIT clause cuts the rows that the
query has without one, the answer is the first one of these, and nothing exactly if there are none;
the window that the query has does not matter.  So it is the first row of the query itself if and
only if no row has been cut off that matters: if there are no rows at all, or if the window has rows
and starts with one that is equal to the first.  This is so for every query without a window, and
for every window of at least one row with no offset.  A malformed query is reported in the same way
by both. -/
theorem first_agrees_iff (h : q.AnsweredWithin client rows) (s : σ) :
    (∀ e, q.toSql = .error e →
      q.get client s = (.error (.failed e), s) ∧ q.first client s = (.error (.failed e), s)) ∧
    ∀ sql, q.toSql = .ok sql →
      (∃ c front back, (q.setLimit { count := 1 }).compile = .ok c ∧
        toSql { q with limit := none } = .ok (front ++ back) ∧
        c.sql = front ++ " LIMIT 1" ++ back ∧
        ∀ r : Recorded σ, q.first client.recorded r =
          ((q.first client r.client).1,
            { client := (q.first client r.client).2, calls := r.calls ++ [.select c] })) ∧
      (∃ s', q.first client s = (.ok (q.allRows rows).head?, s')) ∧
      (q.FirstAgrees client s ↔ q.allRows rows = [] ∨ ∀ l, q.limit = some l →
        l.count ≠ 0 ∧ (q.allRows rows)[l.start]? = (q.allRows rows).head?) ∧
      ((∀ l, q.limit = some l → l.count ≠ 0 ∧ l.start = 0) → q.FirstAgrees client s) := by
  refine ⟨fun e he => get_and_first_of_error he client s, fun sql hsql => ?_⟩
  obtain ⟨c, front, back, hc, hbare, htext, hcall⟩ := exists_compile_first hsql
  refine ⟨⟨c, front, back, hc, hbare, htext, hcall client⟩, exists_first h hsql s,
    firstAgrees_iff h hsql s, fun hl => ?_⟩
  refine (firstAgrees_iff h hsql s).mpr (.inr fun l hlimit => ?_)
  obtain ⟨hcount, hstart⟩ := hl l hlimit
  exact ⟨hcount, by rw [hstart, List.head?_eq_getElem?]⟩

/-! ### Clients that evaluate texts -/

/-- A client that evaluates texts cuts the rows of a query without unions. -/
theorem answeredWithin_textRows (meaning : List Mark → RowSet) (hq : q.isRawFree)
    (hunions : q.unions = []) (hsql : q.toSql = .ok sql) :
    q.AnsweredWithin (evaluating (textRows meaning)) (textRows meaning) := by
  have hbranches := evaluatesByBranch_textRows meaning hq hsql
  have hcut (l : Option RowLimit) : ({ q with limit := l } : Query).rowsIn (textRows meaning) =
      RowLimit.window l (q.firstBranch.rowsIn (textRows meaning)) := by
    rw [hbranches l, hunions, List.flatMap_nil, List.append_nil]
  refine ⟨fun _ _ s _ => ⟨s, rfl⟩, fun l => ?_⟩
  rw [allRows, hcut none]
  exact hcut (some l)

/-- A window on a table. -/
def tableWindow (l : RowLimit) : Query :=
  build [.setFrom { table := some (.name ⟨"t"⟩) }, .setLimit l]

theorem exists_toSql_tableWindow (l : RowLimit) : ∃ sql, (tableWindow l).toSql = .ok sql :=
  ⟨_, rfl⟩

theorem answeredWithin_tableWindow (l : RowLimit) (ts : RowSet) :
    (tableWindow l).AnsweredWithin (evaluating (textRows (branchOf ts [])))
      (textRows (branchOf ts [])) := by
  obtain ⟨sql, hsql⟩ := exists_toSql_tableWindow l
  exact answeredWithin_textRows _ rfl rfl hsql

theorem allRows_tableWindow (l : RowLimit) (ts : RowSet) :
    (tableWindow l).allRows (textRows (branchOf ts [])) = ts :=
  firstBranch_twoTables

theorem numbered_injective : Function.Injective numbered := by
  intro m n h
  have hid : some (Json.int m) = some (Json.int n) := congrArg (fun row => row.get? "id") h
  exact Int.ofNat_inj.mp (Json.int.inj (Option.some.inj hid))

/-- A window on the first two of three rows starts with the first one, which is asked for on its
own with `LIMIT 1`. -/
theorem first_agrees_iff_noOffset :
    let rows := textRows (branchOf [numbered 1, numbered 2, numbered 3] [])
    let q := tableWindow { count := 2, offset := some 0 }
    q.FirstAgrees (evaluating rows) () ∧
      q.first (evaluating rows).recorded { client := () } =
        (.ok (some (numbered 1)),
          { client := (), calls := [.select { sql := "SELECT * FROM `t` LIMIT 1" }] }) := by
  intro rows q
  have hanswered : q.AnsweredWithin (evaluating rows) rows := answeredWithin_tableWindow _ _
  obtain ⟨sql, hsql⟩ := exists_toSql_tableWindow { count := 2, offset := some 0 }
  obtain ⟨⟨c, -, -, hc, -, -, hcall⟩, ⟨s, hfirst⟩, -, hagrees⟩ :=
    (first_agrees_iff hanswered ()).2 sql hsql
  refine ⟨hagrees fun l hl => ?_, ?_⟩
  · obtain rfl := Option.some.inj hl
    decide
  · obtain rfl : { sql := "SELECT * FROM `t` LIMIT 1" } = c := Except.ok.inj hc
    rw [allRows_tableWindow] at hfirst
    rw [hcall, hfirst]
    rfl

/-- A window behind the first of three rows starts with the second one, and the first row that is
asked for on its own is still the first. -/
theorem not_firstAgrees_offset :
    let rows := textRows (branchOf [numbered 1, numbered 2, numbered 3] [])
    let q := tableWindow { count := 2, offset := some 1 }
    q.unions = [] ∧ q.AnsweredWithin (evaluating rows) rows ∧
      q.get (evaluating rows) () = (.ok [numbered 2, numbered 3], ()) ∧
      q.first (evaluating rows) () = (.ok (some (numbered 1)), ()) ∧
      ¬ q.FirstAgrees (evaluating rows) () := by
  intro rows q
  have hanswered : q.AnsweredWithin (evaluating rows) rows := answeredWithin_tableWindow _ _
  obtain ⟨sql, hsql⟩ := exists_toSql_tableWindow { count := 2, offset := some 1 }
  obtain ⟨s₁, hget⟩ := exists_get hanswered hsql ()
  obtain ⟨s₂, hfirst⟩ := exists_first hanswered hsql ()
  rw [allRows_tableWindow] at hget hfirst
  refine ⟨rfl, hanswered, hget, hfirst, ?_⟩
  rintro ⟨found, _, _, hfound, hhead⟩
  obtain rfl := Except.ok.inj (Prod.mk.inj (hget.symm.trans hfound)).1
  have hrow : some (numbered 1) = some (numbered 2) :=
    Except.ok.inj (Prod.mk.inj (hfirst.symm.trans hhead)).1
  exact absurd (numbered_injective (Option.some.inj hrow)) (by decide)

end Query

end FluentSql
