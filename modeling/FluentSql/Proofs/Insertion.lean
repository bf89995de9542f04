import FluentSql.Proofs.ByteOrder
import FluentSql.Proofs.LiteralReading
import FluentSql.Proofs.NameList
import FluentSql.Sql.Write
import Mathlib.Data.List.Sort

/-! # Rows and columns of an insertion

The columns of named rows are all names that some row has, by increasing bytes
(`InsertRow.columnsOf_eq_ok_iff`), whatever the order of the rows and of the values given for a row.
The header lists them behind the table (`Query.insertValues_eq_ok_iff`).  Each row is written as the
list of its values for these columns, and the texts of the rows are read back row by row and value
by value (`Literal.readRows?_tupleText`), so no value is read under another column than its own
(`Query.insertSql_aligned`). -/

namespace FluentSql

/-! ### The columns of rows -/

namespace InsertRow

variable {rows rows' : List InsertRow} {columns : List String}

/-- The row names its columns. -/
def IsNamed (row : InsertRow) : Prop := ∃ values, row = named values

/-- The row lists as many values as given. -/
def HasWidth (width : Nat) (row : InsertRow) : Prop :=
  ∃ values, row = positional values ∧ values.length = width

/-- The rows are of one kind, and those by position of one width. -/
def Uniform (rows : List InsertRow) : Prop :=
  (∀ row ∈ rows, row.IsNamed) ∨ ∃ width, ∀ row ∈ rows, row.HasWidth width

theorem contains_foldl_insert (ks : List String) (m : KeyMap Unit) (k : String) :
    (ks.foldl (fun m k => m.insert k ()) m).contains k ↔ k ∈ ks ∨ m.contains k := by
  induction ks generalizing m with
  | nil => simp
  | cons l ks ih =>
      rw [List.foldl_cons, ih, KeyMap.contains_insert, List.mem_cons]
      tauto

theorem checkWidth_eq_ok_iff {width : Nat} :
    checkWidth width rows = .ok () ↔ ∀ row ∈ rows, row.HasWidth width := by
  induction rows with
  | nil => simp [checkWidth]
  | cons row rows ih =>
      cases row with
      | named values => simp [checkWidth, HasWidth]
      | positional values =>
          rw [checkWidth]
          split
          · rename_i h
            simp [ih, HasWidth, h]
          · rename_i h
            simp [HasWidth, h]

/-- Rows that are all named have the columns that some of them names. -/
theorem namedColumns_spec (h : ∀ row ∈ rows, row.IsNamed) :
    ∃ m, namedColumns rows = .ok m ∧ ∀ c, m.contains c ↔ ∃ row ∈ rows, c ∈ row.columns := by
  induction rows with
  | nil => exact ⟨KeyMap.empty, rfl, by simp [KeyMap.contains]⟩
  | cons row rows ih =>
      obtain ⟨values, rfl⟩ := h row List.mem_cons_self
      obtain ⟨m, hm, hcontains⟩ := ih fun r hr => h r (List.mem_cons_of_mem _ hr)
      refine ⟨values.keys.foldl (fun m k => m.insert k ()) m, by rw [namedColumns, hm]; rfl, ?_⟩
      intro c
      rw [contains_foldl_insert, hcontains]
      simp [InsertRow.columns]

theorem isNamed_of_namedColumns {m : KeyMap Unit} (h : namedColumns rows = .ok m) :
    ∀ row ∈ rows, row.IsNamed := by
  induction rows generalizing m with
  | nil => simp
  | cons row rows ih =>
      cases row with
      | positional values => cases h
      | named values =>
          rw [namedColumns] at h
          obtain ⟨m', hm', -⟩ := bind_eq_ok.mp h
          intro row hrow
          rcases List.mem_cons.mp hrow with rfl | hrow
          · exact ⟨values, rfl⟩
          · exact ih hm' row hrow

/-- The list increases and holds the columns that some row names. -/
def Columns (rows : List InsertRow) (columns : List String) : Prop :=
  columns.Pairwise (· < ·) ∧ ∀ c, c ∈ columns ↔ ∃ row ∈ rows, c ∈ row.columns

theorem Columns.unique {columns' : List String} (h : Columns rows columns)
    (h' : Columns rows columns') : columns = columns' :=
  List.Pairwise.eq_of_mem_iff h.1 h'.1 fun c => (h.2 c).trans (h'.2 c).symm

theorem Columns.perm (h : Columns rows columns) (hrows : rows.Perm rows') :
    Columns rows' columns :=
  ⟨h.1, fun c => (h.2 c).trans (by simp only [hrows.mem_iff])⟩

/-- Rows by position name no column. -/
theorem columns_nil_of_hasWidth {width : Nat} (h : ∀ row ∈ rows, row.HasWidth width) :
    Columns rows [] := by
  refine ⟨.nil, fun c => ?_⟩
  simp only [List.not_mem_nil, false_iff, not_exists, not_and]
  intro row hrow
  obtain ⟨values, rfl, -⟩ := h row hrow
  exact List.not_mem_nil

/-- The keys of all columns are the columns. -/
theorem columns_of_namedColumns {m : KeyMap Unit} (h : namedColumns rows = .ok m) :
    (∀ row ∈ rows, row.IsNamed) ∧ Columns rows m.keys := by
  have hnamed := isNamed_of_namedColumns h
  obtain ⟨m', hm', hcontains⟩ := namedColumns_spec hnamed
  obtain rfl : m = m' := Except.ok.inj (h.symm.trans hm')
  exact ⟨hnamed, m.keys_sorted, fun c => KeyMap.mem_keys_iff.trans (hcontains c)⟩

/-- The columns of an insertion are those that its rows name, if the rows are of one kind. -/
theorem columnsOf_eq_ok_iff :
    columnsOf rows = .ok columns ↔ rows ≠ [] ∧ Uniform rows ∧ Columns rows columns := by
  constructor
  · intro h
    rcases rows with _ | ⟨values | values, rows⟩
    · cases h
    · rw [columnsOf] at h
      obtain ⟨m, hm, hkeys⟩ := bind_eq_ok.mp h
      obtain rfl : m.keys = columns := Except.ok.inj hkeys
      obtain ⟨hnamed, hcolumns⟩ := columns_of_namedColumns hm
      exact ⟨List.cons_ne_nil _ _, .inl hnamed, hcolumns⟩
    · rw [columnsOf] at h
      obtain ⟨_, hm, hnil⟩ := bind_eq_ok.mp h
      obtain rfl : [] = columns := Except.ok.inj hnil
      have hwidth := checkWidth_eq_ok_iff.mp hm
      exact ⟨List.cons_ne_nil _ _, .inr ⟨_, hwidth⟩, columns_nil_of_hasWidth hwidth⟩
  · rintro ⟨hne, hnamed | ⟨width, hwidth⟩, hcolumns⟩
    · obtain ⟨row, rows, rfl⟩ := List.exists_cons_of_ne_nil hne
      obtain ⟨values, rfl⟩ := hnamed row List.mem_cons_self
      obtain ⟨m, hm, -⟩ := namedColumns_spec hnamed
      rw [columnsOf, hm, hcolumns.unique (columns_of_namedColumns hm).2]
      rfl
    · obtain ⟨row, rows, rfl⟩ := List.exists_cons_of_ne_nil hne
      obtain ⟨values, rfl, rfl⟩ := hwidth row List.mem_cons_self
      rw [columnsOf, checkWidth_eq_ok_iff.mpr hwidth,
        hcolumns.unique (columns_nil_of_hasWidth hwidth)]
      rfl

theorem uniform_perm (h : Uniform rows) (hrows : rows.Perm rows') : Uniform rows' := by
  rcases h with h | ⟨width, h⟩
  · exact .inl fun row hrow => h row (hrows.mem_iff.mpr hrow)
  · exact .inr ⟨width, fun row hrow => h row (hrows.mem_iff.mpr hrow)⟩

/-- The columns do not depend on the order of the rows. -/
theorem columnsOf_perm (h : columnsOf rows = .ok columns) (hrows : rows.Perm rows') :
    columnsOf rows' = .ok columns := by
  obtain ⟨hne, huniform, hcolumns⟩ := columnsOf_eq_ok_iff.mp h
  refine columnsOf_eq_ok_iff.mpr ⟨?_, uniform_perm huniform hrows, hcolumns.perm hrows⟩
  rintro rfl
  exact hne hrows.eq_nil

/-- Rows have columns if they are of one kind. -/
theorem exists_columnsOf_iff :
    (∃ columns, columnsOf rows = .ok columns) ↔ rows ≠ [] ∧ Uniform rows := by
  constructor
  · rintro ⟨columns, h⟩
    obtain ⟨hne, huniform, -⟩ := columnsOf_eq_ok_iff.mp h
    exact ⟨hne, huniform⟩
  · rintro ⟨hne, huniform⟩
    have hcolumns : ∃ columns, Columns rows columns := by
      rcases huniform with hnamed | ⟨width, hwidth⟩
      · obtain ⟨m, hm, -⟩ := namedColumns_spec hnamed
        exact ⟨m.keys, (columns_of_namedColumns hm).2⟩
      · exact ⟨[], columns_nil_of_hasWidth hwidth⟩
    obtain ⟨columns, hcolumns⟩ := hcolumns
    exact ⟨columns, columnsOf_eq_ok_iff.mpr ⟨hne, huniform, hcolumns⟩⟩

/-- The values of the row in parentheses: those under the given columns, null where the row has
none; a row by position has its own values. -/
def tupleText (columns : List String) : InsertRow → String
  | named values =>
      "(" ++ ", ".intercalate (columns.map fun c => ((values.get? c).getD .null).sql) ++ ")"
  | positional values => "(" ++ ", ".intercalate (values.map Value.sql) ++ ")"

end InsertRow

/-! ### The statement -/

namespace Query

variable {q : Query} {rows : List InsertRow} {sql : String}

theorem rowText_eq_tupleText (columns : List String) (row : InsertRow) :
    rowText columns row = row.tupleText columns := by
  rw [rowText, Value.sqlList_eq_map]
  cases row with
  | named values => rw [InsertRow.valuesFor, List.map_map]; rfl
  | positional values => rfl

theorem map_rowText_eq (columns : List String) (rows : List InsertRow) :
    rows.map (rowText columns) = rows.map (InsertRow.tupleText columns) :=
  List.map_congr_left fun row _ => rowText_eq_tupleText columns row

/-- An insertion that carries its rows names the table, one list of columns for all rows, and the
values of each row. -/
theorem insertValues_eq_ok_iff :
    q.insertValues rows = .ok sql ↔
      ∃ columns t table, InsertRow.columnsOf rows = .ok columns ∧ q.table? = some t ∧
        t.toSql = .ok table ∧
        sql = "INSERT INTO " ++ table ++ columnsText columns ++ " FORMAT Values " ++
          ", ".intercalate (rows.map (InsertRow.tupleText columns)) := by
  have hlist (columns : List String) :
      (if columns.map Identifier.mk = [] then ""
        else " (" ++ Identifier.quotedList (columns.map Identifier.mk) ++ ")") =
      columnsText columns := by
    simp only [columnsText, Identifier.quotedList, List.map_eq_nil_iff, List.map_map]
    rfl
  unfold insertValues
  simp only [bind_eq_ok, insertHeader_eq_ok_iff, map_rowText_eq, hlist]
  constructor
  · rintro ⟨columns, hcolumns, _, ⟨t, table, ht, htable, rfl⟩, hsql⟩
    refine ⟨columns, t, table, hcolumns, ht, htable, ?_⟩
    rw [← Except.ok.inj hsql]
    simp only [String.append_assoc]
    rfl
  · rintro ⟨columns, t, table, hcolumns, ht, htable, rfl⟩
    refine ⟨columns, hcolumns, _, ⟨t, table, ht, htable, rfl⟩, congrArg Except.ok ?_⟩
    simp only [String.append_assoc]
    rfl

theorem insertSql_eq_insertValues (hq : q.format = none ∨ q.format = some .values) :
    q.insertSql rows = q.insertValues rows := by
  unfold insertSql
  rcases hq with h | h <;> rw [h] <;> rfl

end Query

/-! ### Reading the rows -/

namespace Literal

open TextReader (bracketed listed)

/-- The rows of an insertion: lists of literals in parentheses, with commas between them. -/
def readRows? (s : String) : Option (List (List Value)) :=
  (listed (bracketed '(' ')' (read s.toList.length) s.toList.length) s.toList.length).whole?
    s.toList

variable {rows : List InsertRow} {columns : List String}

theorem toList_rowText (columns : List String) (row : InsertRow) :
    (Query.rowText columns row).toList =
      '(' :: ((Text.commaList (Value.sqlList (row.valuesFor columns))).toList ++ [')']) := by
  rw [Query.rowText, parenthesized, String.toList_append, String.toList_append]
  rfl

theorem takes_rowText {row : InsertRow} (h : ∀ v ∈ row.valuesFor columns, v.IsLiteral) {n : Nat}
    (hn : (Query.rowText columns row).toList.length ≤ n) (ends : List Char) :
    (bracketed '(' ')' (read n) n).Takes ends (Query.rowText columns row).toList
      ((row.valuesFor columns).map Value.signed) := by
  rw [toList_rowText] at hn ⊢
  have hle : (Text.commaList (Value.sqlList (row.valuesFor columns))).toList.length ≤ n := by
    simp only [List.length_cons, List.length_append] at hn
    omega
  exact takes_bracketed (by decide) (by decide) (fun v hv => (h v hv).written) hle ends

/-- The texts of rows are read as the values that the rows have for the columns. -/
theorem readRows?_tupleText (hne : rows ≠ [])
    (h : ∀ row ∈ rows, ∀ v ∈ row.valuesFor columns, v.IsLiteral) :
    readRows? (", ".intercalate (rows.map (InsertRow.tupleText columns))) =
      some (rows.map fun row => (row.valuesFor columns).map Value.signed) := by
  rw [← Query.map_rowText_eq]
  have hlength : rows.length ≤
      (Text.commaList (rows.map (Query.rowText columns))).toList.length := by
    refine length_le_commaList fun row _ => ?_
    rw [toList_rowText]
    exact List.cons_ne_nil _ _
  have hrows := fun row hrow =>
    takes_rowText (h row hrow) (length_le_commaList_of_mem hrow) [',']
  exact whole?_listed List.mem_cons_self hne hlength hrows

end Literal

/-! ### Alignment -/

/-- A row has literals under all columns if its own values are. -/
theorem KeyMap.isLiteral_getD {m : KeyMap Value} (h : ∀ v ∈ m.values, v.IsLiteral) (c : String) :
    ((m.get? c).getD .null).IsLiteral := by
  cases hc : m.get? c with
  | none => exact .null
  | some v => exact h v (mem_values_iff.mpr ⟨c, hc⟩)

namespace Query

variable {q : Query} {rows rows' : List InsertRow} {sql : String}

/-- An insertion is written if its table is and its rows are of one kind. -/
theorem exists_insertValues_iff :
    (∃ sql, q.insertValues rows = .ok sql) ↔
      rows ≠ [] ∧ (∃ t table, q.table? = some t ∧ t.toSql = .ok table) ∧
        InsertRow.Uniform rows := by
  simp only [insertValues_eq_ok_iff]
  constructor
  · rintro ⟨sql, columns, t, table, hcols, ht, htable, -⟩
    obtain ⟨hne, huniform⟩ := InsertRow.exists_columnsOf_iff.mp ⟨columns, hcols⟩
    exact ⟨hne, ⟨t, table, ht, htable⟩, huniform⟩
  · rintro ⟨hne, ⟨t, table, ht, htable⟩, huniform⟩
    obtain ⟨columns, hcols⟩ := InsertRow.exists_columnsOf_iff.mpr ⟨hne, huniform⟩
    exact ⟨_, columns, t, table, hcols, ht, htable, rfl⟩

/-- Named rows are read back as their values under one increasing list of columns, and this list is
read back from the header if its columns are single names. -/
theorem readRows?_insertValues {maps : List (KeyMap Value)}
    (h : q.insertValues (maps.map .named) = .ok sql) :
    ∃ (t : TableSource) (table : String) (columns : List String) (body : String),
      q.table? = some t ∧ t.toSql = .ok table ∧
      sql = "INSERT INTO " ++ table ++ columnsText columns ++ " FORMAT Values " ++ body ∧
      (columns.Pairwise fun a b => Text.bytes a < Text.bytes b) ∧
      (∀ c, c ∈ columns ↔ ∃ m ∈ maps, c ∈ m.keys) ∧
      (readColumns? (columnsText columns) = some columns ↔
        ∀ c ∈ columns, Identifier.IsOneName ⟨c⟩) ∧
      ((∀ m ∈ maps, ∀ v ∈ m.values, v.IsLiteral) →
        Literal.readRows? body =
          some (maps.map fun m => columns.map fun c => ((m.get? c).getD .null).signed)) := by
  obtain ⟨columns, t, table, hcols, ht, htable, rfl⟩ := insertValues_eq_ok_iff.mp h
  obtain ⟨hne, -, hsorted, hmem⟩ := InsertRow.columnsOf_eq_ok_iff.mp hcols
  refine ⟨t, table, columns, _, ht, htable, rfl, hsorted.imp Text.bytes_lt, fun c => ?_,
    readColumns?_columnsText_iff columns, ?_⟩
  · simp [hmem, InsertRow.columns]
  · intro hliteral
    have hrows : ∀ row ∈ maps.map InsertRow.named, ∀ v ∈ row.valuesFor columns, v.IsLiteral := by
      simp only [List.forall_mem_map, InsertRow.valuesFor]
      exact fun m hm c _ => KeyMap.isLiteral_getD (hliteral m hm) c
    rw [Literal.readRows?_tupleText hne hrows, List.map_map]
    simp [InsertRow.valuesFor, Function.comp_def]

/-- Another order of the rows leaves the header, and reorders the texts of the rows. -/
theorem insertValues_perm (hperm : rows.Perm rows') (h : q.insertValues rows = .ok sql) :
    ∃ (t : TableSource) (table : String) (columns : List String),
      q.table? = some t ∧ t.toSql = .ok table ∧ InsertRow.Columns rows columns ∧
      sql = "INSERT INTO " ++ table ++ columnsText columns ++ " FORMAT Values " ++
        ", ".intercalate (rows.map (InsertRow.tupleText columns)) ∧
      q.insertValues rows' =
        .ok ("INSERT INTO " ++ table ++ columnsText columns ++ " FORMAT Values " ++
          ", ".intercalate (rows'.map (InsertRow.tupleText columns))) := by
  obtain ⟨columns, t, table, hcols, ht, htable, rfl⟩ := insertValues_eq_ok_iff.mp h
  have hcols' := InsertRow.columnsOf_perm hcols hperm
  have hsql' := insertValues_eq_ok_iff.mpr ⟨columns, t, table, hcols', ht, htable, rfl⟩
  obtain ⟨-, -, hcolumns⟩ := InsertRow.columnsOf_eq_ok_iff.mp hcols
  exact ⟨t, table, columns, ht, htable, hcolumns, rfl, hsql'⟩

end Query

/-- **The rows of an insertion are aligned with one list of columns.**  An insertion in the format
`Values` is written if it has rows, its table can be written, and its rows are all named or all by
position and of one width.  The columns of named rows are the names of all rows by increasing
bytes.  They stand behind the table as quoted names, which are read back as the columns exactly if
each of them is one name.  The text behind the header is read row by row as the values under these
columns, null where a row has none.  The order in which the values of a row are given does not
matter, and another order of the rows only reorders their texts. -/
theorem Query.insertSql_aligned (q : Query) (hq : q.format = none ∨ q.format = some .values) :
    (∀ rows, (∃ sql, q.insertSql rows = .ok sql) ↔
        rows ≠ [] ∧ (∃ t table, q.table? = some t ∧ t.toSql = .ok table) ∧
          ((∀ row ∈ rows, row.IsNamed) ∨ ∃ width, ∀ row ∈ rows, row.HasWidth width)) ∧
      (∀ (maps : List (KeyMap Value)) (sql : String),
        q.insertSql (maps.map .named) = .ok sql →
          ∃ (t : TableSource) (table : String) (columns : List String) (body : String),
            q.table? = some t ∧ t.toSql = .ok table ∧
            sql = "INSERT INTO " ++ table ++ columnsText columns ++ " FORMAT Values " ++ body ∧
            (columns.Pairwise fun a b => Text.bytes a < Text.bytes b) ∧
            (∀ c, c ∈ columns ↔ ∃ m ∈ maps, c ∈ m.keys) ∧
            (readColumns? (columnsText columns) = some columns ↔
              ∀ c ∈ columns, Identifier.IsOneName ⟨c⟩) ∧
            ((∀ m ∈ maps, ∀ v ∈ m.values, v.IsLiteral) →
              Literal.readRows? body =
                some (maps.map fun m => columns.map fun c => ((m.get? c).getD .null).signed))) ∧
      (∀ (before after : List InsertRow) (ps ps' : List (String × Value)),
        ps.Perm ps' → (ps.map Prod.fst).Nodup →
          q.insertSql (before ++ .ofPairs ps :: after) =
            q.insertSql (before ++ .ofPairs ps' :: after)) ∧
      ∀ (rows rows' : List InsertRow) (sql : String),
        rows.Perm rows' → q.insertSql rows = .ok sql →
          ∃ (t : TableSource) (table : String) (columns : List String),
            q.table? = some t ∧ t.toSql = .ok table ∧ InsertRow.Columns rows columns ∧
            sql = "INSERT INTO " ++ table ++ columnsText columns ++ " FORMAT Values " ++
              ", ".intercalate (rows.map (InsertRow.tupleText columns)) ∧
            q.insertSql rows' =
              .ok ("INSERT INTO " ++ table ++ columnsText columns ++ " FORMAT Values " ++
                ", ".intercalate (rows'.map (InsertRow.tupleText columns))) := by
  simp only [insertSql_eq_insertValues hq]
  refine ⟨fun rows => exists_insertValues_iff, fun maps sql => readRows?_insertValues, ?_,
    fun rows rows' sql => insertValues_perm⟩
  intro before after ps ps' hperm hkeys
  rw [InsertRow.ofPairs, InsertRow.ofPairs, KeyMap.ofList_perm hkeys hperm]

/-- Two rows without a common column have both columns each, and the header lists both. -/
theorem Query.insertSql_aligned_disjointColumns :
    ∃ body : String,
      Query.insertSql { fromClause := some { table := some (.name ⟨"t"⟩) } }
          ([KeyMap.ofList [("b", Value.int 2)], KeyMap.ofList [("a", Value.string "x")]].map
            .named) = .ok ("INSERT INTO `t` (`a`, `b`) FORMAT Values " ++ body) ∧
      readColumns? " (`a`, `b`)" = some ["a", "b"] ∧
      Literal.readRows? body =
        some [[Value.null, Value.int 2], [Value.string "x", Value.null]] := by
  have haligned :=
    Query.insertSql_aligned { fromClause := some { table := some (.name ⟨"t"⟩) } } (.inl rfl)
  obtain ⟨sql, hsql⟩ := (haligned.1
    ([KeyMap.ofList [("b", Value.int 2)], KeyMap.ofList [("a", Value.string "x")]].map .named)).mpr
      ⟨by simp, ⟨_, _, rfl, rfl⟩, .inl (by simp [InsertRow.IsNamed])⟩
  obtain ⟨t, table, columns, body, ht, htable, rfl, hsorted, hcolumns, hnames, hread⟩ :=
    haligned.2.1 _ sql hsql
  obtain rfl : TableSource.name ⟨"t"⟩ = t := Option.some.inj ht
  obtain rfl : "`t`" = table := Except.ok.inj htable
  have hasymm : Std.Asymm fun a b : String => Text.bytes a < Text.bytes b :=
    ⟨fun _ _ => List.lt_asymm⟩
  have hirrefl : Std.Irrefl fun a b : String => Text.bytes a < Text.bytes b :=
    ⟨fun _ => List.lt_irrefl _⟩
  obtain rfl : columns = ["a", "b"] := hsorted.eq_of_mem_iff (by decide) fun c => by
    rw [hcolumns]
    simp [KeyMap.ofList, KeyMap.insert, KeyMap.insertEntry, KeyMap.empty, KeyMap.keys, or_comm]
  refine ⟨body, hsql, hnames.mpr (by decide), hread ?_⟩
  simp only [List.forall_mem_cons, KeyMap.ofList, KeyMap.insert, KeyMap.insertEntry, KeyMap.empty,
    KeyMap.values, List.foldl_cons, List.foldl_nil, List.map_cons, List.map_nil]
  exact ⟨⟨.int 2, by simp⟩, ⟨.string "x", by simp⟩, by simp⟩

/-- A column with a dot in its name is listed as two names. -/
theorem Query.not_readColumns?_insertSql_dot :
    Query.insertSql { fromClause := some { table := some (.name ⟨"t"⟩) } }
        [.ofPairs [("a.b", .int 1)]] =
      .ok ("INSERT INTO `t`" ++ columnsText ["a.b"] ++ " FORMAT Values (1)") ∧
    columnsText ["a.b"] = " (`a`.`b`)" ∧ readColumns? (columnsText ["a.b"]) ≠ some ["a.b"] :=
  ⟨rfl, rfl, by decide⟩

end FluentSql
