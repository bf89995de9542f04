import FluentSql.Proofs.Counting
import FluentSql.Proofs.Rendered
import FluentSql.Proofs.Surface
import FluentSql.Proofs.TermReading

/-! # The rows of a text, branch by branch

`textRows` evaluates the text of a statement as a database does: UNION ALL puts the rows of its
branches one after the other, and a LIMIT cuts the rows of the branch it is written in.  What the
rest of a branch means is left open.  A LIMIT that is given to a query is written in front of its
unions (`Query.exists_text_withEnd`), so it cuts the rows of the first branch and no other
(`Query.EvaluatesByBranch`).  This holds of the text of every query without raw SQL
(`Query.evaluatesByBranch_textRows`). -/

namespace FluentSql

/-- The rows behind the first `offset` ones, and at most `count` of them. -/
def cutRows (offset count : Nat) (rows : RowSet) : RowSet := (rows.drop offset).take count

/-- The rows in a window; without a window all of them. -/
def RowLimit.window : Option RowLimit → RowSet → RowSet
  | some l, rows => cutRows ((l.offset.map UInt64.toNat).getD 0) l.count.toNat rows
  | none, rows => rows

/-! ### Evaluating marks -/

namespace Mark

/-- Whether a mark is the given word outside brackets. -/
def isKeyword (w : String) (m : Mark) : Bool := m = outer (.word w)

/-- Whether a mark is something else. -/
def isOther (w : String) (m : Mark) : Bool := !m.isKeyword w

/-- The number that a mark is. -/
def number? (m : Mark) : Option Nat :=
  match m.lexeme with
  | .word w => Term.number? w
  | _ => none

/-- The offset and the count that stand behind LIMIT. -/
def window? : List Mark → Option (Nat × Nat)
  | [count] => count.number?.map fun n => (0, n)
  | [offset, comma, count] =>
      if comma = outer (.symbol ',') then
        offset.number?.bind fun o => count.number?.map fun n => (o, n)
      else none
  | _ => none

/-- The marks in front of the last LIMIT, and the window behind it.  A LIMIT with something else
behind it, such as BY, is none. -/
def cutLimit? (ms : List Mark) : Option (List Mark × Nat × Nat) :=
  match ms.reverse.dropWhile (isOther "LIMIT") with
  | [] => none
  | _ :: before =>
      (window? (ms.reverse.takeWhile (isOther "LIMIT")).reverse).map fun w => (before.reverse, w)

section Rows

variable (meaning : List Mark → RowSet)

/-- The rows of a branch, without the keyword that it is added with and without a FORMAT clause. -/
def branchRows (ms : List Mark) : RowSet :=
  let body := (ms.dropWhile (isKeyword "ALL")).takeWhile (isOther "FORMAT")
  match cutLimit? body with
  | some (core, offset, count) => cutRows offset count (meaning core)
  | none => meaning body

/-- The rows of all branches. -/
def rows (ms : List Mark) : RowSet :=
  (ms.splitOnP (isKeyword "UNION")).flatMap (branchRows meaning)

end Rows

end Mark

/-- The rows of a text, where `meaning` gives the rows of a branch without LIMIT. -/
def textRows (meaning : List Mark → RowSet) (sql : String) : RowSet :=
  match surface? sql with
  | some ms => Mark.rows meaning ms
  | none => []

namespace Mark

variable {meaning : List Mark → RowSet} {ms ns : List Mark}

theorem branchRows_all (ms : List Mark) :
    branchRows meaning (outer (.word "ALL") :: ms) = branchRows meaning ms := by
  rw [branchRows, branchRows, List.dropWhile_cons_of_pos (by decide)]

/-- A union has the rows of both sides. -/
theorem rows_union (ms ns : List Mark) :
    rows meaning (ms ++ (outer (.word "UNION") :: outer (.word "ALL") :: ns)) =
      rows meaning ms ++ rows meaning ns := by
  have hall : isKeyword "UNION" (outer (.word "ALL")) = false := by decide
  obtain ⟨b, bs, hbs⟩ := List.exists_cons_of_ne_nil
    (List.splitOnP_ne_nil (isKeyword "UNION") ns)
  rw [rows, List.splitOnP_append_cons ms _ (by decide), List.flatMap_append,
    List.splitOnP_cons_eq_if_modifyHead, hall, if_neg Bool.false_ne_true, rows, rows, hbs,
    List.modifyHead_cons, List.flatMap_cons, List.flatMap_cons, branchRows_all]

theorem dropWhile_append_cons {m : Mark} {w : String} (hm : m.isKeyword w = false) :
    (ms ++ m :: ns).dropWhile (isKeyword w) = ms.dropWhile (isKeyword w) ++ m :: ns := by
  rw [List.dropWhile_append, List.dropWhile_cons_of_neg (by simp [hm])]
  split
  · rename_i h
    rw [List.isEmpty_iff.mp h, List.nil_append]
  · rfl

theorem takeWhile_append_cons {m : Mark} {w : String} (hm : m.isKeyword w) :
    (ms ++ m :: ns).takeWhile (isOther w) = ms.takeWhile (isOther w) := by
  rw [List.takeWhile_append, List.takeWhile_cons_of_neg (by simp [isOther, hm])]
  split
  · rename_i h
    rw [List.append_nil, (List.takeWhile_prefix _).eq_of_length h]
  · rfl

/-- A FORMAT clause has no say in the rows of its branch. -/
theorem branchRows_format (ms ns : List Mark) :
    branchRows meaning (ms ++ outer (.word "FORMAT") :: ns) = branchRows meaning ms := by
  rw [branchRows, branchRows, dropWhile_append_cons (by decide), takeWhile_append_cons (by decide)]

/-- A FORMAT clause at the end has no say in the rows. -/
theorem rows_format (hns : ∀ m ∈ ns, isKeyword "UNION" m = false) (ms : List Mark) :
    rows meaning (ms ++ outer (.word "FORMAT") :: ns) = rows meaning ms := by
  have hsplit : (outer (.word "FORMAT") :: ns).splitOnP (isKeyword "UNION") =
      [outer (.word "FORMAT") :: ns] :=
    List.splitOnP_eq_singleton (List.forall_mem_cons.mpr ⟨by decide, hns⟩)
  -- The split collects the marks of a branch before it is complete.
  have hall (read : List Mark) :
      (List.splitOnPPrepend (isKeyword "UNION") (ms ++ outer (.word "FORMAT") :: ns) read).flatMap
          (branchRows meaning) =
        (List.splitOnPPrepend (isKeyword "UNION") ms read).flatMap (branchRows meaning) := by
    induction ms generalizing read with
    | nil =>
        rw [List.nil_append, List.splitOnPPrepend_eq_modifyHead, hsplit, List.modifyHead_cons,
          List.splitOnPPrepend_nil, List.flatMap_singleton, List.flatMap_singleton,
          branchRows_format]
    | cons m ms ih =>
        rw [List.cons_append, List.splitOnPPrepend_cons_eq_if, List.splitOnPPrepend_cons_eq_if]
        split
        · rw [List.flatMap_cons, List.flatMap_cons]
          exact congrArg _ (ih [])
        · exact ih (m :: read)
  exact hall []

/-! ### Limits of branches -/

/-- A head word that is not seen is no keyword of the marks. -/
theorem isKeyword_eq_false {w : String} (hw : isHeadWord w) (h : w ∉ heads ms) :
    ∀ m ∈ ms, m.isKeyword w = false := by
  intro m hm
  rw [isKeyword, decide_eq_false_iff_not]
  rintro rfl
  exact h (mem_heads hw hm)

theorem not_isHeadWord_of_number? {w : String} {n : Nat} (h : Term.number? w = some n) :
    ¬ isHeadWord w := by
  intro hhead
  obtain ⟨⟨hne, hdigits⟩, -⟩ := Option.ite_none_right_eq_some.mp h
  obtain ⟨c, cs, hcs⟩ := List.exists_cons_of_ne_nil fun hnil =>
    hne (String.toList_eq_nil_iff.mp hnil)
  have hc : c ∈ w.toList := hcs ▸ List.mem_cons_self
  have hdigit : c.isDigit := List.all_eq_true.mp hdigits c hc
  exact Lexeme.not_isNumeric_of_isHeadWord hhead hc (by simp [isNumeric, hdigit])

theorem heads_singleton_of_number? {m : Mark} {n : Nat} (h : m.number? = some n) :
    heads [m] = [] := by
  obtain ⟨l, isOuter⟩ := m
  cases l with
  | word w =>
      have hw := not_isHeadWord_of_number? h
      cases isOuter <;> simp [heads, Lexeme.seen, hw]
  | _ => cases h

/-- There is no head word in a window. -/
theorem heads_of_window? {w : Nat × Nat} (h : window? ms = some w) : heads ms = [] := by
  unfold window? at h
  split at h
  · obtain ⟨n, hn, -⟩ := Option.map_eq_some_iff.mp h
    exact heads_singleton_of_number? hn
  · rename_i offset comma count
    obtain ⟨rfl, hnumbers⟩ := Option.ite_none_right_eq_some.mp h
    obtain ⟨o, ho, hmap⟩ := Option.bind_eq_some_iff.mp hnumbers
    obtain ⟨n, hn, -⟩ := Option.map_eq_some_iff.mp hmap
    have hoffset := heads_singleton_of_number? ho
    have hcount := heads_singleton_of_number? hn
    have hall : heads [offset, outer (.symbol ','), count] =
        heads [offset] ++ (heads [outer (.symbol ',')] ++ heads [count]) := by
      rw [← heads_append, ← heads_append]
      rfl
    rw [hall, hoffset, hcount]
    rfl
  · cases h

/-- Marks that end in a LIMIT clause. -/
theorem cutLimit?_append {offset count : Nat} (h : window? ns = some (offset, count)) :
    cutLimit? (ms ++ outer (.word "LIMIT") :: ns) = some (ms, offset, count) := by
  have hns : ∀ m ∈ ns.reverse, m.isOther "LIMIT" := by
    intro m hm
    have hnot := isKeyword_eq_false (w := "LIMIT") (by decide) (by simp [heads_of_window? h])
      m (List.mem_reverse.mp hm)
    rw [isOther, hnot]
    rfl
  have hreverse : (ms ++ outer (.word "LIMIT") :: ns).reverse =
      ns.reverse ++ outer (.word "LIMIT") :: ms.reverse := by simp
  have hlimit : ¬ (outer (.word "LIMIT")).isOther "LIMIT" := by decide
  rw [cutLimit?, hreverse, List.dropWhile_append_of_pos hns, List.takeWhile_append_of_pos hns,
    List.dropWhile_cons_of_neg hlimit, List.takeWhile_cons_of_neg hlimit, List.append_nil]
  simp only [List.reverse_reverse, h, Option.map_some]

/-- Marks of which the last head word is another one than LIMIT do not end in such a clause. -/
theorem cutLimit?_eq_none (h : (heads ms).getLast? ≠ some "LIMIT") : cutLimit? ms = none := by
  rw [cutLimit?]
  split
  · rfl
  · rename_i m before hdrop
    rw [Option.map_eq_none_iff]
    cases hwindow : window? (ms.reverse.takeWhile (isOther "LIMIT")).reverse with
    | none => rfl
    | some w =>
        refine absurd ?_ h
        have hm : m = outer (.word "LIMIT") := by
          have hnot := List.head?_dropWhile_not (isOther "LIMIT") ms.reverse
          rw [hdrop] at hnot
          simpa [isOther, isKeyword] using hnot
        have hms : ms = before.reverse ++
            ([outer (.word "LIMIT")] ++
              (ms.reverse.takeWhile (isOther "LIMIT")).reverse) := by
          have hsplit : _ = ms.reverse := List.takeWhile_append_dropWhile (p := isOther "LIMIT")
          rw [hdrop, hm] at hsplit
          have hreverse := congrArg List.reverse hsplit
          simpa using hreverse.symm
        rw [hms, heads_append, heads_append, heads_of_window? hwindow]
        simp [heads, Lexeme.seen, outer, isHeadWord, headWords]

/-- The marks of a branch without LIMIT, union and FORMAT. -/
structure IsCore (ms : List Mark) : Prop where
  union : "UNION" ∉ heads ms
  format : "FORMAT" ∉ heads ms
  limit : (heads ms).getLast? ≠ some "LIMIT"

instance (ms : List Mark) : Decidable (IsCore ms) :=
  decidable_of_iff ("UNION" ∉ heads ms ∧ "FORMAT" ∉ heads ms ∧ (heads ms).getLast? ≠ some "LIMIT")
    ⟨fun ⟨hunion, hformat, hlimit⟩ => ⟨hunion, hformat, hlimit⟩, fun h => ⟨h.1, h.2, h.3⟩⟩

theorem IsCore.dropWhile (h : IsCore ms) (w : String) : IsCore (ms.dropWhile (isKeyword w)) := by
  have hheads : heads ms = heads (ms.takeWhile (isKeyword w)) ++
      heads (ms.dropWhile (isKeyword w)) := by
    rw [← heads_append, List.takeWhile_append_dropWhile]
  obtain ⟨hunion, hformat, hlimit⟩ := h
  rw [hheads] at hunion hformat hlimit
  refine ⟨fun hmem => hunion (List.mem_append_right _ hmem),
    fun hmem => hformat (List.mem_append_right _ hmem), fun hlast => hlimit ?_⟩
  rw [List.getLast?_append, hlast]
  rfl

theorem takeWhile_format (h : "FORMAT" ∉ heads ms) : ms.takeWhile (isOther "FORMAT") = ms := by
  rw [List.takeWhile_eq_self_iff]
  intro m hm
  rw [isOther, isKeyword_eq_false (by decide) h m hm]
  rfl

/-- The rows of a branch without LIMIT. -/
theorem rows_of_isCore (h : IsCore ms) :
    rows meaning ms = meaning (ms.dropWhile (isKeyword "ALL")) := by
  have hbody := h.dropWhile "ALL"
  rw [rows, List.splitOnP_eq_singleton (isKeyword_eq_false (by decide) h.union),
    List.flatMap_singleton, branchRows, takeWhile_format hbody.format,
    cutLimit?_eq_none hbody.limit]

theorem heads_limit {w : Nat × Nat} (h : window? ns = some w) (ms : List Mark) :
    heads (ms ++ outer (.word "LIMIT") :: ns) = heads ms ++ ["LIMIT"] := by
  have hlimit : heads [outer (.word "LIMIT")] = ["LIMIT"] := by decide
  rw [List.append_cons, heads_append, heads_append, hlimit, heads_of_window? h, List.append_nil]

/-- A LIMIT clause behind a branch cuts its rows. -/
theorem rows_limit (h : IsCore ms) {offset count : Nat} (hns : window? ns = some (offset, count)) :
    rows meaning (ms ++ outer (.word "LIMIT") :: ns) = cutRows offset count (rows meaning ms) := by
  have hbody := h.dropWhile "ALL"
  have hunion : "UNION" ∉ heads (ms ++ outer (.word "LIMIT") :: ns) := by
    simpa [heads_limit hns] using h.union
  have hformat : "FORMAT" ∉
      heads (ms.dropWhile (isKeyword "ALL") ++ outer (.word "LIMIT") :: ns) := by
    simpa [heads_limit hns] using hbody.format
  rw [rows_of_isCore h, rows, List.splitOnP_eq_singleton (isKeyword_eq_false (by decide) hunion),
    List.flatMap_singleton, branchRows, dropWhile_append_cons (by decide),
    takeWhile_format hformat, cutLimit?_append hns]

end Mark

/-! ### The text of a query around its LIMIT clause -/

theorem solid_natText (n : Nat) : Text.Solid (toString n).toList := by
  have hblank : ∀ c ∈ (toString n).toList, ¬ Text.isBlank c := by
    intro c hc hblank
    have halnum := (Lexeme.not_isAlphanum_of_isBlank hblank).1
    simp [Char.isAlphanum, isDigit_of_mem_natText hc] at halnum
  exact ⟨fun h => natText_ne_empty n (String.toList_eq_nil_iff.mp h),
    fun c hc => hblank c (List.mem_of_mem_head? hc),
    fun c hc => hblank c (List.mem_of_mem_getLast? hc)⟩

theorem solid_limitClause (l : Option RowLimit) :
    limitClause l = "" ∨ Text.Solid (limitClause l).toList := by
  have hlimit : Text.Solid "LIMIT".toList := by decide
  rcases l with _ | ⟨count, _ | offset⟩
  · exact .inl rfl
  · exact .inr (Text.solid_append hlimit " " (solid_natText count.toNat))
  · exact .inr (Text.solid_append (Text.solid_append hlimit " " (solid_natText offset.toNat)) ", "
      (solid_natText count.toNat))

theorem solid_formatClause (f : Option Format) :
    formatClause f = "" ∨ Text.Solid (formatClause f).toList := by
  cases f with
  | none => exact .inl rfl
  | some f => exact .inr (by cases f <;> decide)

theorem solid_unionClause {us : List String} (h : ∀ u ∈ us, Text.Solid u.toList) :
    unionClause us = "" ∨ Text.Solid (unionClause us).toList := by
  cases us with
  | nil => exact .inl rfl
  | cons u us =>
      right
      have hunion : Text.Solid "UNION ALL".toList := by decide
      rw [unionClause, String.toList_intercalate]
      refine Text.solid_intercalate (by simp) ?_
      simp only [List.forall_mem_map]
      exact fun v hv => Text.solid_append hunion " " (h v hv)

namespace Query

/-- The query with other clauses at its end, from LIMIT on. -/
def withEnd (q : Query) (l : Option RowLimit) (qs : List Query) (f : Option Format) : Query :=
  { q with limit := l, unions := qs, format := f }

theorem solid_of_toSqlList {qs : List Query} {us : List String} (h : toSqlList qs = .ok us) :
    ∀ u ∈ us, Text.Solid u.toList := by
  have hall := forall₂_of_toSqlList h
  clear h
  induction hall with
  | nil => exact nofun
  | cons hu _ ih => exact List.forall_mem_cons.mpr ⟨solid_toSql hu, ih⟩

/-- The clauses of a query in front of LIMIT have texts that do not depend on what is behind. -/
theorem exists_pieces {q : Query} {sql : String} (h : q.toSql = .ok sql) :
    ∃ pieces : List String, "SELECT" ∈ pieces ∧ ∀ l qs us f, toSqlList qs = .ok us →
      (q.withEnd l qs f).toSql =
        .ok (Text.fragments (pieces ++ [limitClause l, unionClause us, formatClause f])) := by
  obtain ⟨t, ht, -⟩ := toSql_eq_ok_iff.mp h
  refine ⟨(t.pieces q).take 12, List.mem_cons_self, fun l qs us f hus =>
    toSql_eq_ok_iff.mpr ⟨{ t with unions := us }, ?_, rfl⟩⟩
  exact ⟨ht.fault, ht.columns, ht.fromClause, ht.arrayJoin, ht.joins, ht.preWheres, ht.wheres,
    ht.groups, ht.havings, ht.orders, ht.limitBy, hus⟩

/-- The text of a query is that of its first clauses, with a LIMIT clause, unions and a FORMAT
clause behind it. -/
theorem exists_text_withEnd {q : Query} {sql : String} (h : q.toSql = .ok sql) :
    ∃ core, (q.withEnd none [] none).toSql = .ok core ∧
      ∀ l qs us f, toSqlList qs = .ok us → (q.withEnd l qs f).toSql =
        .ok (core ++ Text.spaced (limitClause l) ++ Text.spaced (unionClause us) ++
          Text.spaced (formatClause f)) := by
  obtain ⟨pieces, hselect, htext⟩ := exists_pieces h
  have hpieces (more : List String) : Text.fragments (pieces ++ more) ≠ "" :=
    Text.fragments_ne_empty (List.mem_append_left more hselect) (by decide)
  have hend (l us f) (hus : ∀ u ∈ us, Text.Solid u.toList) :
      Text.fragments (pieces ++ [limitClause l, unionClause us, formatClause f]) =
        Text.fragments pieces ++ Text.spaced (limitClause l) ++ Text.spaced (unionClause us) ++
          Text.spaced (formatClause f) := by
    have hnil := hpieces []
    rw [List.append_nil] at hnil
    rw [← Text.fragments_concat hnil (solid_limitClause l),
      ← Text.fragments_concat (hpieces _) (solid_unionClause hus),
      ← Text.fragments_concat (by rw [List.append_assoc]; exact hpieces _) (solid_formatClause f)]
    simp only [List.append_assoc, List.cons_append, List.nil_append]
  refine ⟨Text.fragments pieces, ?_, fun l qs us f hus => ?_⟩
  · rw [htext none [] [] none rfl, hend none [] none nofun]
    exact congrArg _ (by simp [Text.spaced, limitClause, unionClause, formatClause])
  · rw [htext l qs us f hus, hend l us f (solid_of_toSqlList hus)]

end Query

/-! ### The rows of the clauses at the end -/

section Ends

variable {meaning : List Mark → RowSet} {s : String} {ms : List Mark}

/-- The text has the rows in a surface of its own. -/
def HasRows (meaning : List Mark → RowSet) (s : String) (rows : RowSet) : Prop :=
  ∃ ms, surface? s = some ms ∧ Mark.rows meaning ms = rows

theorem textRows_of_hasRows {rows : RowSet} (h : HasRows meaning s rows) :
    textRows meaning s = rows := by
  obtain ⟨ms, hms, rfl⟩ := h
  rw [textRows, hms]

theorem textRows_of_isCore (hms : surface? s = some ms) (hcore : Mark.IsCore ms) :
    textRows meaning s = meaning (ms.dropWhile (Mark.isKeyword "ALL")) := by
  rw [textRows, hms]
  exact Mark.rows_of_isCore hcore

theorem surface?_natText (n : Nat) : surface? (toString n) = some [.outer (.word (toString n))] :=
  surface?_eq_some.mpr ⟨_, read?_natText n, rfl⟩

theorem number?_natMark (n : Nat) : (Mark.outer (.word (toString n))).number? = some n :=
  number?_natText n

/-- A LIMIT clause shows its window. -/
theorem RowLimit.exists_surface_sql (l : RowLimit) :
    ∃ ns, Mark.window? ns = some ((l.offset.map UInt64.toNat).getD 0, l.count.toNat) ∧
      surface? l.sql = some (.outer (.word "LIMIT") :: ns) := by
  have hlimit : Lexeme.mark [] (Lexeme.ofText "LIMIT ") = some ([], [.outer (.word "LIMIT")]) := by
    decide
  have hfirst (n : Nat) :=
    surface?_behind "LIMIT " (by decide) (by decide) hlimit (surface?_natText n)
  obtain ⟨count, _ | offset⟩ := l
  · refine ⟨[_], ?_, hfirst count.toNat⟩
    rw [Mark.window?, number?_natMark]
    rfl
  · have hcomma : Lexeme.mark [] (Lexeme.ofText ", ") = some ([], [.outer (.symbol ',')]) := by
      decide
    refine ⟨[_, _, _], ?_, surface?_glue ", " (by decide) (by decide) (by decide) hcomma
      (hfirst offset.toNat) (surface?_natText count.toNat)⟩
    rw [Mark.window?, if_pos rfl, number?_natMark, number?_natMark]
    rfl

theorem hasRows_limit (hms : surface? s = some ms) (hcore : Mark.IsCore ms) (l : Option RowLimit) :
    HasRows meaning (s ++ Text.spaced (limitClause l))
      (RowLimit.window l (Mark.rows meaning ms)) := by
  cases l with
  | none =>
      rw [limitClause, Text.spaced, if_pos rfl, String.append_empty]
      exact ⟨ms, hms, rfl⟩
  | some l =>
      obtain ⟨ns, hwindow, hns⟩ := l.exists_surface_sql
      have hne : l.sql ≠ "" := by
        rintro hempty
        rw [hempty] at hns
        cases hns
      have hblank : Lexeme.mark [] (Lexeme.ofText " ") = some ([], []) := by decide
      rw [limitClause, Text.spaced, if_neg hne, ← String.append_assoc]
      exact ⟨_, surface?_glue " " (by decide) (by decide) (by decide) hblank hms hns,
        Mark.rows_limit hcore hwindow⟩

theorem unionClause_cons_ne_empty (u : String) (us : List String) : unionClause (u :: us) ≠ "" := by
  rw [unionClause, List.map_cons, String.intercalate_cons_append]
  simp

theorem spaced_unionClause_cons (u : String) (us : List String) :
    Text.spaced (unionClause (u :: us)) = " UNION ALL " ++ u ++ Text.spaced (unionClause us) := by
  have hword (t : String) : " " ++ ("UNION ALL " ++ t) = " UNION ALL " ++ t := by
    rw [← String.append_assoc]
    rfl
  rw [Text.spaced, if_neg (unionClause_cons_ne_empty u us)]
  cases us with
  | nil =>
      have hempty : Text.spaced (unionClause []) = "" := by decide
      rw [hempty, String.append_empty]
      exact hword u
  | cons v us =>
      have hcons : unionClause (u :: v :: us) = "UNION ALL " ++ u ++ " " ++ unionClause (v :: us) :=
        String.intercalate_cons_cons
      rw [hcons, Text.spaced, if_neg (unionClause_cons_ne_empty v us), String.append_assoc,
        String.append_assoc, hword, String.append_assoc]

/-- The rows of the queries of a union come behind. -/
theorem hasRows_unions {us : List String} (hus : ∀ u ∈ us, ∃ ns, surface? u = some ns) :
    ∀ {s : String} {rows : RowSet}, HasRows meaning s rows →
      HasRows meaning (s ++ Text.spaced (unionClause us))
        (rows ++ us.flatMap (textRows meaning)) := by
  induction us with
  | nil =>
      intro s rows h
      have hempty : Text.spaced (unionClause []) = "" := by decide
      rw [hempty, String.append_empty, List.flatMap_nil, List.append_nil]
      exact h
  | cons u us ih =>
      intro s rows h
      obtain ⟨ns, hns⟩ := hus u List.mem_cons_self
      obtain ⟨ms, hms, rfl⟩ := h
      have hunion : Lexeme.mark [] (Lexeme.ofText " UNION ALL ") =
          some ([], [.outer (.word "UNION"), .outer (.word "ALL")]) := by decide
      have hboth : HasRows meaning (s ++ " UNION ALL " ++ u)
          (Mark.rows meaning ms ++ textRows meaning u) := by
        refine ⟨_, surface?_glue " UNION ALL " (by decide) (by decide) (by decide) hunion hms hns,
          ?_⟩
        rw [textRows, hns]
        exact Mark.rows_union ms ns
      have hrest := ih (fun v hv => hus v (List.mem_cons_of_mem u hv)) hboth
      rw [spaced_unionClause_cons, List.flatMap_cons, ← List.append_assoc]
      rwa [← String.append_assoc, ← String.append_assoc]

theorem hasRows_format {rows : RowSet} (h : HasRows meaning s rows) (f : Option Format) :
    HasRows meaning (s ++ Text.spaced (formatClause f)) rows := by
  cases f with
  | none =>
      have hempty : Text.spaced (formatClause none) = "" := by decide
      rw [hempty, String.append_empty]
      exact h
  | some f =>
      obtain ⟨ms, hms, rfl⟩ := h
      obtain ⟨ns, hns, hheads⟩ := (f.alike_token (f := id)).exists_surface
      have hformat : Lexeme.mark [] (Lexeme.ofText " FORMAT ") =
          some ([], [.outer (.word "FORMAT")]) := by decide
      have htext : Text.spaced (formatClause (some f)) = " FORMAT " ++ f.token := by
        rw [formatClause, Text.spaced, if_neg (by simp), ← String.append_assoc]
        rfl
      rw [htext, ← String.append_assoc]
      refine ⟨_, surface?_glue " FORMAT " (by decide) (by decide) (by decide) hformat hms hns, ?_⟩
      exact Mark.rows_format (Mark.isKeyword_eq_false (by decide) (by simp [hheads])) ms

end Ends

/-! ### Queries branch by branch -/

/-- Only a LIMIT clause ends in its first keyword. -/
theorem Clause.getLast?_flatMap_words {cs : List Clause} (h : .limit ∉ cs) :
    (cs.flatMap words).getLast? ≠ some "LIMIT" := by
  induction cs using List.reverseRecOn with
  | nil => simp
  | append_singleton cs c _ =>
      have hc : c ≠ .limit := fun hc => h (by simp [hc])
      rw [List.flatMap_append, List.flatMap_singleton,
        List.getLast?_append_of_ne_nil _ c.words_ne_nil]
      cases c <;> simp_all [words]

namespace Query

variable {q : Query} {sql : String} {rows : String → RowSet}

theorem exists_surface_toSql (hq : q.isRawFree) (hsql : q.toSql = .ok sql) :
    ∃ ms, surface? sql = some ms ∧ Mark.heads ms = q.clauses.flatMap Clause.words := by
  obtain ⟨_, -, halike⟩ := (q.alike_toSql (f := id) hq).of_ok hsql
  exact halike.exists_surface

theorem not_mem_clauses_withEnd {c : Clause} (hc : c = .limit ∨ c = .union ∨ c = .format) :
    c ∉ (q.withEnd none [] none).clauses := by
  obtain ⟨columns, fromClause, sample, arrayJoin, joins, preWheres, wheres, groups, havings, orders,
    limitBy, limit, unions, format, siblings, tables, settings, cluster, fault⟩ := q
  rcases hc with rfl | rfl | rfl <;>
    simp [withEnd, clauses, unionClauses, Clause.mem_ofSet, Clause.mem_ofFragment,
      ArrayJoin.clause, Join.clause]

/-- In front of LIMIT the text of a query without raw SQL is one branch. -/
theorem exists_isCore (hq : q.isRawFree) (hsql : (q.withEnd none [] none).toSql = .ok sql) :
    ∃ ms, surface? sql = some ms ∧ Mark.IsCore ms := by
  have hfree : (q.withEnd none [] none).isRawFree := by
    obtain ⟨columns, fromClause, sample, arrayJoin, joins, preWheres, wheres, groups, havings,
      orders, limitBy, limit, unions, format, siblings, tables, settings, cluster, fault⟩ := q
    simp only [isRawFree, Bool.and_eq_true] at hq
    simp [withEnd, isRawFree, isRawFreeList, hq]
  have hunion : ∀ c : Clause, "UNION" ∈ c.words ↔ c = .union := by
    intro c
    cases c <;> simp [Clause.words]
  have hformat : ∀ c : Clause, "FORMAT" ∈ c.words ↔ c = .format := by
    intro c
    cases c <;> simp [Clause.words]
  obtain ⟨ms, hms, hheads⟩ := exists_surface_toSql hfree hsql
  refine ⟨ms, hms, ⟨?_, ?_, ?_⟩⟩
  · simpa [hheads, List.mem_flatMap, hunion] using
      not_mem_clauses_withEnd (q := q) (.inr (.inl rfl))
  · simpa [hheads, List.mem_flatMap, hformat] using
      not_mem_clauses_withEnd (q := q) (.inr (.inr rfl))
  · rw [hheads]
    exact Clause.getLast?_flatMap_words (not_mem_clauses_withEnd (.inl rfl))

/-- The rows of the text of a query; nothing for a malformed one. -/
def rowsIn (rows : String → RowSet) (q : Query) : RowSet :=
  match q.toSql with
  | .ok sql => rows sql
  | .error _ => []

theorem rowsIn_eq (hsql : q.toSql = .ok sql) : q.rowsIn rows = rows sql := by
  rw [rowsIn, hsql]

/-- The query without its unions and its window. -/
def firstBranch (q : Query) : Query := q.withEnd none [] q.format

/-- The window of the query cuts the rows of its first branch, and those of its unions come
behind. -/
def EvaluatesByBranch (rows : String → RowSet) (q : Query) : Prop :=
  ∀ l, ({ q with limit := l } : Query).rowsIn rows =
    RowLimit.window l (q.firstBranch.rowsIn rows) ++ q.unions.flatMap (rowsIn rows)

theorem flatMap_rowsIn {qs : List Query} {us : List String} (h : toSqlList qs = .ok us) :
    qs.flatMap (rowsIn rows) = us.flatMap rows := by
  have hall := forall₂_of_toSqlList h
  clear h
  induction hall with
  | nil => rfl
  | cons hu _ ih => rw [List.flatMap_cons, List.flatMap_cons, rowsIn_eq hu, ih]

theorem exists_toSqlList_unions (hsql : q.toSql = .ok sql) :
    ∃ us, toSqlList q.unions = .ok us := by
  obtain ⟨_, ht, -⟩ := toSql_eq_ok_iff.mp hsql
  exact ⟨_, ht.unions⟩

theorem exists_surface_of_toSqlList {qs : List Query} (hqs : isRawFreeList qs) {us : List String}
    (h : toSqlList qs = .ok us) : ∀ u ∈ us, ∃ ms, surface? u = some ms := by
  have hall := forall₂_of_toSqlList h
  clear h
  induction hall with
  | nil => exact nofun
  | cons hu _ ih =>
      obtain ⟨hq, hqs⟩ := Bool.and_eq_true_iff.mp hqs
      obtain ⟨ms, hms, -⟩ := exists_surface_toSql hq hu
      exact List.forall_mem_cons.mpr ⟨⟨ms, hms⟩, ih hqs⟩

/-- **A window that a query is given cuts its first branch alone**, whatever branches mean, as the
text of the query has it. -/
theorem evaluatesByBranch_textRows (meaning : List Mark → RowSet) (hq : q.isRawFree)
    (hsql : q.toSql = .ok sql) : q.EvaluatesByBranch (textRows meaning) := by
  obtain ⟨us, hus⟩ := exists_toSqlList_unions hsql
  obtain ⟨core, hcore, htext⟩ := exists_text_withEnd hsql
  obtain ⟨ms, hms, hisCore⟩ := exists_isCore hq hcore
  have hunions : isRawFreeList q.unions := by
    cases q
    exact (Bool.and_eq_true_iff.mp hq).2
  have hend (l : Option RowLimit) (qs : List Query) {us : List String}
      (hqs : isRawFreeList qs) (hus : toSqlList qs = .ok us) :
      (q.withEnd l qs q.format).rowsIn (textRows meaning) =
        RowLimit.window l (Mark.rows meaning ms) ++ us.flatMap (textRows meaning) := by
    rw [rowsIn_eq (htext l qs us q.format hus)]
    exact textRows_of_hasRows (hasRows_format (hasRows_unions (exists_surface_of_toSqlList hqs hus)
      (hasRows_limit hms hisCore l)) q.format)
  intro l
  have hfirst : q.firstBranch.rowsIn (textRows meaning) = Mark.rows meaning ms := by
    have hnone := hend none [] rfl rfl
    rwa [List.flatMap_nil, List.append_nil] at hnone
  rw [hfirst, flatMap_rowsIn hus]
  exact hend l q.unions hunions hus

end Query

end FluentSql
