import FluentSql.Proofs.OuterAlias
import FluentSql.Query.Call

/-! # Clauses without aliases

GROUP BY and LIMIT BY take a list of items without the aliases that the items add.  An alias within
a column that was configured, or in the text of a name, is none of these and is written with the
column.  So the clause of the items is that of the items without any alias exactly if the grouping
is given up or no item shows an alias of its own (`ByClause.text_eq_iff`). -/

namespace FluentSql

open Text (Loses)

/-! ### Lists of texts -/

/-- Each text of a list has less ink than the one at its place in another list, if so asked for one
of them, and is equal to it otherwise; and empty texts are at the same places. -/
inductive LoseTexts : Bool → List String → List String → Prop
  | nil : LoseTexts false [] []
  | cons {b c : Bool} {t' t : String} {ts' ts : List String} (hempty : t' = "" ↔ t = "")
      (head : Loses b t' t) (tail : LoseTexts c ts' ts) : LoseTexts (b || c) (t' :: ts') (t :: ts)

namespace LoseTexts

variable {b : Bool} {ts' ts : List String}

/-- An empty text cannot lose anything. -/
theorem filter (h : LoseTexts b ts' ts) :
    LoseTexts b (ts'.filter (· ≠ "")) (ts.filter (· ≠ "")) := by
  induction h with
  | nil => exact nil
  | @cons b c t' t ts' ts hempty head tail ih =>
      by_cases ht : t = ""
      · have ht' : t' = "" := hempty.mpr ht
        rw [ht] at head
        rw [List.filter_cons_of_neg (by simp [ht']), List.filter_cons_of_neg (by simp [ht]),
          head.eq_false_of_empty, Bool.false_or]
        exact ih
      · have ht' : t' ≠ "" := fun h => ht (hempty.mp h)
        rw [List.filter_cons_of_pos (by simp [ht']), List.filter_cons_of_pos (by simp [ht])]
        exact cons hempty head ih

theorem commaList (h : LoseTexts b ts' ts) :
    Loses b (Text.commaList ts') (Text.commaList ts) := by
  induction h with
  | nil => exact Loses.refl _
  | @cons b c t' t ts' ts _ head tail ih =>
      cases tail with
      | nil =>
          rw [Text.commaList, Text.commaList, String.intercalate_singleton,
            String.intercalate_singleton, Bool.or_false]
          exact head
      | cons _ _ _ =>
          have hglue := head.glue ", " ih
          rw [Text.commaList, Text.commaList, String.intercalate_cons_cons,
            String.intercalate_cons_cons]
          exact hglue

theorem forall_eq_empty_iff (h : LoseTexts b ts' ts) :
    (∀ t ∈ ts', t = "") ↔ ∀ t ∈ ts, t = "" := by
  induction h with
  | nil => exact Iff.rfl
  | cons hempty _ _ ih => rw [List.forall_mem_cons, List.forall_mem_cons, hempty, ih]

theorem groupClause (h : LoseTexts b ts' ts) :
    Loses b (groupClause (some ts')) (groupClause (some ts)) := by
  have hempty : Text.commaList (ts'.filter (· ≠ "")) = "" ↔
      Text.commaList (ts.filter (· ≠ "")) = "" := by
    have hclause := (groupClause_some_eq_empty_iff ts').trans
      (h.forall_eq_empty_iff.trans (groupClause_some_eq_empty_iff ts).symm)
    rwa [FluentSql.groupClause, FluentSql.groupClause, Text.clause_eq_empty_iff,
      Text.clause_eq_empty_iff] at hclause
  have hlist := h.filter.commaList
  rw [FluentSql.groupClause, FluentSql.groupClause, Text.clause, Text.clause]
  by_cases hbody : Text.commaList (ts.filter (· ≠ "")) = ""
  · rw [hbody] at hlist
    rw [if_pos hbody, if_pos (hempty.mpr hbody), hlist.eq_false_of_empty]
    exact Loses.refl _
  · rw [if_neg hbody, if_neg fun hbody' => hbody (hempty.mp hbody')]
    exact (Loses.refl "GROUP BY ").append hlist

end LoseTexts

/-! ### Lists of columns -/

/-- The column `c'` is written whenever `c` is, with less ink if so asked and in the same way
otherwise.  An empty text stays empty, a bare `*` stays one, and no other text becomes empty. -/
def Column.LosesTo (b : Bool) (c' c : Column) : Prop :=
  ∀ sql, c.toSql = .ok sql → ∃ sql', c'.toSql = .ok sql' ∧ Loses b sql' sql ∧
    (sql' = "" ↔ sql = "") ∧ (sql = "*" → sql' = "*")

theorem Column.LosesTo.refl (c : Column) : LosesTo false c c :=
  fun sql h => ⟨sql, h, Loses.refl sql, Iff.rfl, fun hstar => hstar⟩

theorem Column.losesTo_unaliased (c : Column) : LosesTo c.showsAlias c.unaliased c := by
  intro sql h
  obtain ⟨sql', hsql', hloses, hempty⟩ := exists_toSql_unaliased h
  refine ⟨sql', hsql', hloses, hempty, ?_⟩
  rintro rfl
  rw [unaliased_of_isStar ((toSql_eq_star_iff c).mp h), h] at hsql'
  exact (Except.ok.inj hsql').symm

/-- Columns that are written like those of another list, and which lose something if one of them
does. -/
inductive LoseColumns : Bool → List Column → List Column → Prop
  | nil : LoseColumns false [] []
  | cons {b d : Bool} {c' c : Column} {cs' cs : List Column} (head : Column.LosesTo b c' c)
      (tail : LoseColumns d cs' cs) : LoseColumns (b || d) (c' :: cs') (c :: cs)

namespace LoseColumns

theorem map_unaliased (cs : List Column) :
    LoseColumns (cs.any Column.showsAlias) (cs.map Column.unaliased) cs := by
  induction cs with
  | nil => exact nil
  | cons c cs ih => exact cons c.losesTo_unaliased ih

/-- Columns in front stay as they are. -/
theorem append_left {b : Bool} {cs' cs : List Column} (h : LoseColumns b cs' cs)
    (front : List Column) : LoseColumns b (front ++ cs') (front ++ cs) := by
  induction front with
  | nil => exact h
  | cons c front ih => exact cons (Column.LosesTo.refl c) ih

theorem exists_toSqlList {b : Bool} {cs' cs : List Column} (h : LoseColumns b cs' cs) :
    ∀ {ts : List String}, Column.toSqlList cs = .ok ts →
      ∃ ts', Column.toSqlList cs' = .ok ts' ∧ LoseTexts b ts' ts := by
  induction h with
  | nil =>
      intro ts hts
      obtain rfl := Except.ok.inj hts
      exact ⟨[], rfl, .nil⟩
  | @cons b d c' c cs' cs head tail ih =>
      intro ts hts
      obtain ⟨t, ht, hts⟩ := bind_eq_ok.mp hts
      obtain ⟨rest, hrest, hts⟩ := bind_eq_ok.mp hts
      obtain rfl := Except.ok.inj hts
      obtain ⟨t', ht', hloses, hempty, -⟩ := head t ht
      obtain ⟨rest', hrest', hlose⟩ := ih hrest
      exact ⟨t' :: rest', by rw [Column.toSqlList, ht', hrest']; rfl, .cons hempty hloses hlose⟩

end LoseColumns

/-- What becomes of the texts of groups.  When aliases are taken away a group can become a bare `*`,
and then the grouping is given up. -/
inductive LoseGroups : Bool → Option (List String) → Option (List String) → Prop
  | givenUp {b : Bool} : LoseGroups b none none
  | dropped {b : Bool} {ts : List String} (hb : b = true) (hne : ∃ t ∈ ts, t ≠ "") :
      LoseGroups b none (some ts)
  | kept {b : Bool} {ts' ts : List String} (h : LoseTexts b ts' ts) :
      LoseGroups b (some ts') (some ts)

/-- A grouping that is not given up has another clause exactly if something is lost. -/
theorem LoseGroups.groupClause_eq_iff {b : Bool} {texts' texts : Option (List String)}
    (h : LoseGroups b texts' texts) :
    groupClause texts = groupClause texts' ↔ texts = none ∨ b = false := by
  cases h with
  | givenUp => exact iff_of_true rfl (.inl rfl)
  | @dropped ts hb hne =>
      have hclause : groupClause (some ts) ≠ "" := by
        rw [ne_eq, groupClause_some_eq_empty_iff]
        obtain ⟨t, ht, hne⟩ := hne
        exact fun hall => hne (hall t ht)
      exact iff_of_false hclause (by simp [hb])
  | kept hlose =>
      rw [eq_comm, hlose.groupClause.eq_iff]
      exact (or_iff_right (Option.some_ne_none _)).symm

/-- One more group that is not a bare `*`. -/
theorem LoseGroups.cons {b d : Bool} {t' t : String} {texts' texts : Option (List String)}
    (hempty : t' = "" ↔ t = "") (head : Loses b t' t) (tail : LoseGroups d texts' texts) :
    LoseGroups (b || d) (texts'.map (t' :: ·)) (texts.map (t :: ·)) := by
  cases tail with
  | givenUp => exact givenUp
  | dropped hd hne =>
      obtain ⟨u, hu, hne⟩ := hne
      exact dropped (by rw [hd, Bool.or_true]) ⟨u, List.mem_cons_of_mem t hu, hne⟩
  | kept hlose => exact kept (.cons hempty head hlose)

/-- A `*` with an alias becomes a bare one, and the grouping is given up. -/
theorem LoseGroups.cons_star {b d : Bool} {t : String} (hempty : "*" = "" ↔ t = "")
    (head : Loses b "*" t) (hbare : t ≠ "*") (texts : Option (List String)) :
    LoseGroups (b || d) none (texts.map (t :: ·)) := by
  have hb : b = true := by
    rw [← Bool.not_eq_false, ← head.eq_iff]
    exact hbare.symm
  have hne : t ≠ "" := fun hnil => absurd (hempty.mpr hnil) (by decide)
  cases texts with
  | none => exact givenUp
  | some ts => exact dropped (by rw [hb, Bool.true_or]) ⟨t, List.mem_cons_self, hne⟩

section Groups

variable {c : Column} {t : String}

theorem Column.toSqlGroups_cons_star (h : c.toSql = .ok "*") (cs : List Column) :
    toSqlGroups (c :: cs) = .ok none := by
  rw [toSqlGroups, h]
  rfl

theorem Column.toSqlGroups_cons (h : c.toSql = .ok t) (hbare : t ≠ "*") (cs : List Column) :
    toSqlGroups (c :: cs) = do return (← toSqlGroups cs).map (t :: ·) := by
  rw [toSqlGroups, h]
  exact if_neg hbare

end Groups

theorem LoseColumns.exists_toSqlGroups {b : Bool} {cs' cs : List Column}
    (h : LoseColumns b cs' cs) :
    ∀ {texts : Option (List String)}, Column.toSqlGroups cs = .ok texts →
      ∃ texts', Column.toSqlGroups cs' = .ok texts' ∧ LoseGroups b texts' texts := by
  induction h with
  | nil =>
      intro texts htexts
      obtain rfl := Except.ok.inj htexts
      exact ⟨some [], rfl, .kept .nil⟩
  | @cons b d c' c cs' cs head tail ih =>
      intro texts htexts
      obtain ⟨t, ht, -⟩ := bind_eq_ok.mp htexts
      obtain ⟨t', ht', hloses, hempty, hstar⟩ := head t ht
      by_cases hbare : t = "*"
      · rw [hbare] at ht
        rw [hstar hbare] at ht'
        obtain rfl := Except.ok.inj ((Column.toSqlGroups_cons_star ht cs).symm.trans htexts)
        exact ⟨none, Column.toSqlGroups_cons_star ht' cs', .givenUp⟩
      · rw [Column.toSqlGroups_cons ht hbare] at htexts
        obtain ⟨rest, hrest, htexts⟩ := bind_eq_ok.mp htexts
        obtain rfl := Except.ok.inj htexts
        obtain ⟨rest', hrest', hlose⟩ := ih hrest
        by_cases hbare' : t' = "*"
        · rw [hbare'] at ht' hloses hempty
          exact ⟨none, Column.toSqlGroups_cons_star ht' cs', .cons_star hempty hloses hbare rest⟩
        · refine ⟨rest'.map (t' :: ·), ?_, hlose.cons hempty hloses⟩
          rw [Column.toSqlGroups_cons ht' hbare', hrest']
          rfl

/-! ### Items -/

namespace SelectItem

/-- The item without the aliases that show in the text of its column. -/
def unaliased : SelectItem → SelectItem
  | named source => named (source.unaliased true)
  | aliased source _ => named (source.unaliased true)
  | configured c => configured c.unaliased
  | subQuery q => subQuery q

/-- Whether an item shows an alias of its own.  The alias that it adds to a source does not count,
and a sub-query has none. -/
def showsAlias : SelectItem → Bool
  | named source | aliased source _ => source.carriesAlias
  | configured c => c.showsAlias
  | subQuery _ => false

theorem toColumn_unaliased (item : SelectItem) :
    item.unaliased.toColumn false = (item.toColumn false).unaliased := by
  cases item <;> rfl

theorem showsAlias_source (source : ColumnSource) :
    (Column.named source).showsAlias = source.carriesAlias := by
  cases h : source.carriesAlias <;>
    simp [Column.named, Column.showsAlias, ColumnFunction.leavesOpen, ColumnFunction.showsAlias, h]

/-- An alias of its own is what the column of an item shows. -/
theorem showsAlias_toColumn : ∀ item : SelectItem,
    (item.toColumn false).showsAlias = item.showsAlias
  | named source => showsAlias_source source
  | aliased source _ => showsAlias_source source
  | configured _ => rfl
  | subQuery _ => rfl

end SelectItem

/-! ### Clauses -/

/-- The clauses that take items without the aliases that they add. -/
inductive ByClause where
  | groupBy
  | addGroupBy
  | limitBy (count : UInt64)

namespace ByClause

/-- The call that gives items to the clause. -/
def call : ByClause → List SelectItem → QueryCall
  | groupBy => .groupBy
  | addGroupBy => .addGroupBy
  | limitBy count => .setLimitBy count

/-- The columns of the query that stay in front of those of the items. -/
def kept : ByClause → Query → List Column
  | addGroupBy, q => q.groups
  | _, _ => []

/-- The text of the clause. -/
def text : ByClause → Query → Except QueryError String
  | limitBy _, q => LimitBy.toSqlOrNothing q.limitBy
  | _, q => groupClause <$> Column.toSqlGroups q.groups

/-- Whether the clause is left out because of a bare `*`. -/
def isGivenUp : ByClause → Query → Bool
  | limitBy _, _ => false
  | _, q => q.groups.any Column.isStar

end ByClause

namespace Query

variable {q : Query} {sql : String}

/-- The GROUP BY and LIMIT BY clauses have their places in the statement, and other ones take these
places. -/
theorem exists_fragments (h : q.toSql = .ok sql) :
    ∃ texts text front middle back, Column.toSqlGroups q.groups = .ok texts ∧
      LimitBy.toSqlOrNothing q.limitBy = .ok text ∧
      sql = Text.fragments (front ++ groupClause texts :: (middle ++ text :: back)) ∧
      ∀ groups' texts' limitBy' text', Column.toSqlGroups groups' = .ok texts' →
        LimitBy.toSqlOrNothing limitBy' = .ok text' →
          { q with groups := groups', limitBy := limitBy' }.toSql =
            .ok (Text.fragments (front ++ groupClause texts' :: (middle ++ text' :: back))) := by
  obtain ⟨t, ht, rfl⟩ := toSql_eq_ok_iff.mp h
  -- Eight pieces stand before GROUP BY; HAVING and ORDER BY stand between it and LIMIT BY.
  refine ⟨t.groups, t.limitBy, (t.pieces q).take 8, ((t.pieces q).drop 9).take 2,
    (t.pieces q).drop 12, ht.groups, ht.limitBy, rfl,
    fun groups' texts' limitBy' text' hgroups hlimitBy =>
      toSql_eq_ok_iff.mpr ⟨{ t with groups := texts', limitBy := text' }, ?_, rfl⟩⟩
  exact ⟨ht.fault, ht.columns, ht.fromClause, ht.arrayJoin, ht.joins, ht.preWheres, ht.wheres,
    hgroups, ht.havings, ht.orders, hlimitBy, ht.unions⟩

end Query

/-! ### Columns of a clause -/

section Columns

variable {b : Bool} {cs' cs : List Column} {text : String}

theorem LoseColumns.exists_groupText (h : LoseColumns b cs' cs)
    (htext : groupClause <$> Column.toSqlGroups cs = .ok text) :
    ∃ text', groupClause <$> Column.toSqlGroups cs' = .ok text' ∧
      (text = text' ↔ cs.any Column.isStar ∨ b = false) := by
  obtain ⟨texts, htexts, rfl⟩ := map_eq_ok_iff.mp htext
  obtain ⟨texts', htexts', hlose⟩ := h.exists_toSqlGroups htexts
  have hnone : texts = none ↔ cs.any Column.isStar := by
    rcases Column.toSqlGroups_eq_ok htexts with ⟨hany, rfl⟩ | ⟨hany, sqls, rfl, -⟩
    · exact iff_of_true rfl hany
    · exact iff_of_false (Option.some_ne_none sqls) hany
  exact ⟨_, map_eq_ok_iff.mpr ⟨texts', htexts', rfl⟩, by rw [hlose.groupClause_eq_iff, hnone]⟩

theorem LoseColumns.exists_limitByText (h : LoseColumns b cs' cs) {l : RowLimit}
    (htext : LimitBy.toSqlOrNothing (some ⟨l, cs⟩) = .ok text) :
    ∃ text', LimitBy.toSqlOrNothing (some ⟨l, cs'⟩) = .ok text' ∧ (text = text' ↔ b = false) := by
  obtain ⟨ts, hts, htext⟩ := bind_eq_ok.mp htext
  obtain rfl := Except.ok.inj htext
  obtain ⟨ts', hts', hlose⟩ := h.exists_toSqlList hts
  have hloses := (Loses.refl (l.sql ++ " BY ")).append hlose.commaList
  rw [Bool.false_or] at hloses
  refine ⟨l.sql ++ " BY " ++ Text.commaList ts', ?_, by rw [eq_comm, hloses.eq_iff]⟩
  rw [LimitBy.toSqlOrNothing, LimitBy.toSql, hts']
  rfl

variable (hcs : ∀ c ∈ cs, c.isRawFree ∧ c.showsAlias = false)
include hcs

theorem noAlias_groupText (htext : groupClause <$> Column.toSqlGroups cs = .ok text) :
    NoAlias text := by
  obtain ⟨texts, htexts, rfl⟩ := map_eq_ok_iff.mp htext
  refine noAlias_groupClause fun sqls hsqls => ?_
  rcases Column.toSqlGroups_eq_ok htexts with ⟨-, rfl⟩ | ⟨-, sqls', rfl, hforall⟩
  · cases hsqls
  · obtain rfl := Option.some.inj hsqls
    exact Column.noAlias_of_forall₂ hcs hforall

theorem noAlias_limitByText {l : RowLimit}
    (htext : LimitBy.toSqlOrNothing (some ⟨l, cs⟩) = .ok text) : NoAlias text := by
  obtain ⟨ts, hts, htext⟩ := bind_eq_ok.mp htext
  obtain rfl := Except.ok.inj htext
  exact l.noAlias_by (Column.noAlias_of_forall₂ hcs (Column.forall₂_of_toSqlList hts))

end Columns

/-! ### Items in a clause -/

theorem loseColumns_items (items : List SelectItem) :
    LoseColumns (items.any SelectItem.showsAlias)
      ((items.map SelectItem.unaliased).map (SelectItem.toColumn false))
      (items.map (SelectItem.toColumn false)) := by
  have hcolumns : (items.map SelectItem.unaliased).map (SelectItem.toColumn false) =
      (items.map (SelectItem.toColumn false)).map Column.unaliased := by
    rw [List.map_map, List.map_map]
    exact List.map_congr_left fun item _ => item.toColumn_unaliased
  have hany : items.any SelectItem.showsAlias =
      (items.map (SelectItem.toColumn false)).any Column.showsAlias := by
    rw [List.any_map]
    exact congrArg items.any (funext fun item => item.showsAlias_toColumn.symm)
  rw [hcolumns, hany]
  exact LoseColumns.map_unaliased _

theorem loseColumns_columnsOrStar (items : List SelectItem) :
    LoseColumns (items.any SelectItem.showsAlias)
      (Query.columnsOrStar false (items.map SelectItem.unaliased))
      (Query.columnsOrStar false items) := by
  cases items with
  | nil => exact LoseColumns.nil.append_left [Column.star]
  | cons item items => exact loseColumns_items (item :: items)

/-- The column of an item without aliases shows none. -/
theorem SelectItem.isRawFree_and_showsAlias_of_mem {items : List SelectItem}
    (hfree : ∀ item ∈ items, (item.toColumn false).isRawFree) :
    ∀ c ∈ (items.map unaliased).map (toColumn false), c.isRawFree ∧ c.showsAlias = false := by
  intro c hc
  obtain ⟨_, hmem, rfl⟩ := List.mem_map.mp hc
  obtain ⟨item, hitem, rfl⟩ := List.mem_map.mp hmem
  rw [toColumn_unaliased, Column.isRawFree_unaliased, Column.showsAlias_unaliased]
  exact ⟨hfree item hitem, rfl⟩

namespace ByClause

variable {k : ByClause} {q : Query} {items : List SelectItem} {sql text : String}

/-- The clause has its place in the statement, and that of other items takes this place. -/
theorem exists_fragments (h : (q.call (k.call items)).toSql = .ok sql) :
    ∃ text front back, k.text (q.call (k.call items)) = .ok text ∧
      sql = Text.fragments (front ++ text :: back) ∧
      ∀ items' text', k.text (q.call (k.call items')) = .ok text' →
        (q.call (k.call items')).toSql = .ok (Text.fragments (front ++ text' :: back)) := by
  obtain ⟨texts, text, front, middle, back, hgroups, hlimitBy, hsql, hother⟩ :=
    Query.exists_fragments h
  cases k with
  | limitBy count =>
      refine ⟨text, front ++ groupClause texts :: middle, back, hlimitBy, ?_,
        fun items' text' htext' => ?_⟩
      · rw [hsql, List.append_assoc, List.cons_append]
      · rw [List.append_assoc, List.cons_append]
        exact hother _ _ _ _ hgroups htext'
  | _ =>
      refine ⟨_, front, middle ++ text :: back, map_eq_ok_iff.mpr ⟨texts, hgroups, rfl⟩, hsql,
        fun items' text' htext' => ?_⟩
      obtain ⟨texts', htexts', rfl⟩ := map_eq_ok_iff.mp htext'
      exact hother _ _ _ _ htexts' hlimitBy

/-- The clause of the items without aliases has a text, which is another one exactly if an alias was
taken away and the clause is not given up. -/
theorem exists_text_unaliased (h : k.text (q.call (k.call items)) = .ok text) :
    ∃ text', k.text (q.call (k.call (items.map SelectItem.unaliased))) = .ok text' ∧
      (text = text' ↔
        k.isGivenUp (q.call (k.call items)) ∨ items.any SelectItem.showsAlias = false) := by
  cases k with
  | groupBy => exact (loseColumns_columnsOrStar items).exists_groupText h
  | addGroupBy => exact ((loseColumns_items items).append_left q.groups).exists_groupText h
  | limitBy count =>
      obtain ⟨text', htext', heq⟩ := (loseColumns_items items).exists_limitByText h
      exact ⟨text', htext', heq.trans (or_iff_right Bool.false_ne_true).symm⟩

/-- Without raw SQL the clause of the items without aliases introduces none outside brackets, unless
a column in front of them shows one. -/
theorem noAlias_text_unaliased (hkept : ∀ c ∈ k.kept q, c.isRawFree ∧ c.showsAlias = false)
    (hfree : ∀ item ∈ items, (item.toColumn false).isRawFree)
    (h : k.text (q.call (k.call (items.map SelectItem.unaliased))) = .ok text) :
    NoAlias text := by
  have hitems := SelectItem.isRawFree_and_showsAlias_of_mem hfree
  cases k with
  | groupBy =>
      have hcolumns : ∀ c ∈ Query.columnsOrStar false (items.map SelectItem.unaliased),
          c.isRawFree ∧ c.showsAlias = false := by
        cases items with
        | nil => exact List.forall_mem_singleton.mpr ⟨rfl, rfl⟩
        | cons item items => exact hitems
      exact noAlias_groupText hcolumns h
  | addGroupBy => exact noAlias_groupText (List.forall_mem_append.mpr ⟨hkept, hitems⟩) h
  | limitBy count => exact noAlias_limitByText hitems h

/-- **The clause of items is that of the same items without their aliases exactly if it is given up
or no item shows an alias of its own**: the one of a configured column, or one in the text of a
name that stands open.  The alias that an item adds to a source is always dropped.  Both statements
have the same text around the clause, and without raw SQL the clause of the items without aliases
introduces none outside brackets. -/
theorem text_eq_iff (k : ByClause) (q : Query) (items : List SelectItem) {sql : String}
    (h : (q.call (k.call items)).toSql = .ok sql) :
    ∃ text text' front back,
      k.text (q.call (k.call items)) = .ok text ∧
      k.text (q.call (k.call (items.map SelectItem.unaliased))) = .ok text' ∧
      sql = Text.fragments (front ++ text :: back) ∧
      (q.call (k.call (items.map SelectItem.unaliased))).toSql =
        .ok (Text.fragments (front ++ text' :: back)) ∧
      (text = text' ↔
        k.isGivenUp (q.call (k.call items)) ∨ ∀ item ∈ items, ¬ item.showsAlias) ∧
      ((∀ c ∈ k.kept q, c.isRawFree ∧ c.showsAlias = false) →
        (∀ item ∈ items, (item.toColumn false).isRawFree) → NoAlias text') := by
  obtain ⟨text, front, back, htext, hsql, hother⟩ := exists_fragments h
  obtain ⟨text', htext', heq⟩ := exists_text_unaliased htext
  refine ⟨text, text', front, back, htext, htext', hsql, hother _ _ htext', ?_,
    fun hkept hfree => noAlias_text_unaliased hkept hfree htext'⟩
  rw [heq, List.any_eq_false]

/-- A query of a table. -/
def ofTable : Query := Query.build [.setFrom { table := some (.name ⟨"t"⟩) }]

/-- An alias that is added to a name is dropped, and a sub-query has none. -/
theorem text_eq_iff_aliased :
    let items : List SelectItem := [.aliased (.ofName "db.x") ⟨"y"⟩, .subQuery {}]
    (ofTable.call (groupBy.call items)).toSql =
        .ok "SELECT * FROM `t` GROUP BY `db`.`x`, (SELECT *)" ∧
      groupBy.text (ofTable.call (groupBy.call (items.map SelectItem.unaliased))) =
        .ok "GROUP BY `db`.`x`, (SELECT *)" ∧
      NoAlias "GROUP BY `db`.`x`, (SELECT *)" := by
  intro items
  have hsql : (ofTable.call (groupBy.call items)).toSql =
      .ok "SELECT * FROM `t` GROUP BY `db`.`x`, (SELECT *)" := rfl
  have htext : groupBy.text (ofTable.call (groupBy.call items)) =
      .ok "GROUP BY `db`.`x`, (SELECT *)" := rfl
  obtain ⟨text, text', -, -, hfirst, hsecond, -, -, hiff, hquiet⟩ :=
    text_eq_iff groupBy ofTable items hsql
  obtain rfl := Except.ok.inj (hfirst.symm.trans htext)
  obtain rfl := hiff.mpr (.inr (by decide))
  exact ⟨hsql, hsecond, hquiet nofun (by decide)⟩

/-- The alias of a configured column stays in a GROUP BY clause, and so does the one in the text of
a name in a LIMIT BY clause. -/
theorem not_text_eq_configured_or_named :
    let configured : List SelectItem := [.configured ((Column.named (.ofName "x")).setAlias ⟨"y"⟩)]
    let named : List SelectItem := [.named (.ofName "x as y")]
    ((ofTable.call (groupBy.call configured)).toSql =
          .ok "SELECT * FROM `t` GROUP BY `x` AS `y`" ∧
        groupBy.text (ofTable.call (groupBy.call configured)) = .ok "GROUP BY `x` AS `y`" ∧
        groupBy.text (ofTable.call (groupBy.call (configured.map SelectItem.unaliased))) =
          .ok "GROUP BY `x`" ∧
        ¬ NoAlias "GROUP BY `x` AS `y`") ∧
      (ofTable.call ((limitBy 1).call named)).toSql =
          .ok "SELECT * FROM `t` LIMIT 1 BY `x` AS `y`" ∧
        (limitBy 1).text (ofTable.call ((limitBy 1).call named)) =
          .ok "LIMIT 1 BY `x` AS `y`" ∧
        (limitBy 1).text (ofTable.call ((limitBy 1).call (named.map SelectItem.unaliased))) =
          .ok "LIMIT 1 BY `x`" ∧
        ¬ NoAlias "LIMIT 1 BY `x` AS `y`" :=
  ⟨⟨rfl, rfl, rfl, by decide⟩, rfl, rfl, rfl, by decide⟩

end ByClause

end FluentSql
