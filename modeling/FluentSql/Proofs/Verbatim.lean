import FluentSql.Proofs.Deletion

/-! # Raw pieces of SQL in the text of a query

A raw piece stands as it is in the clause that it belongs to, or in the fragment of a join
(`Query.exists_fragment`).  These are trimmed when the query is put together.  So a raw piece stands
in the text as it is, apart from blanks at its ends that are also at an end of its fragment
(`Query.raws_standIn_fragment`). -/

namespace FluentSql

open Text (isInfix_append_left isInfix_append_right)

/-! ### Raw pieces -/

namespace Value

mutual

/-- The raw pieces of SQL in a value. -/
def raws : Value → List String
  | .raw sql => [sql]
  | .array items => rawsOfList items
  | _ => []

def rawsOfList : List Value → List String
  | [] => []
  | v :: vs => v.raws ++ rawsOfList vs

end

end Value

/-- The raw pieces in the argument of a function. -/
def ColumnFunction.raws : ColumnFunction → List String
  | plus v | multiply v | sumIf _ v => v.raws
  | _ => []

/-- The raw pieces that are left when functions are applied to something with the given ones.  A
count drops what it is applied to. -/
def ColumnFunction.rawsOfAll (inner : List String) : List ColumnFunction → List String
  | [] => inner
  | f :: fs => rawsOfAll (if f.isCount then [] else inner ++ f.raws) fs

mutual

/-- The raw pieces in the text of a column, outside nested queries. -/
def ColumnSource.raws : ColumnSource → List String
  | .value v => v.raws
  | .column c => c.raws
  | .query _ => []

def ColumnSource.rawsOfOption : Option ColumnSource → List String
  | none => []
  | some s => s.raws

def Column.raws : Column → List String
  | ⟨source, _, functions⟩ =>
      ColumnFunction.rawsOfAll (ColumnSource.rawsOfOption source) functions

end

/-- The raw piece that a table is, if it is one. -/
def TableSource.raws : TableSource → List String
  | .raw sql => [sql]
  | _ => []

/-- The raw pieces in a side that is neither a group nor a condition. -/
def Operand.leafRaws : Operand → List String
  | .value v => v.raws
  | .tuple t => Value.rawsOfList t.elements
  | .column c => c.raws
  | _ => []

/-- The raw pieces in a condition, outside nested queries. -/
def Predicate.raws (p : Predicate) : List String := p.leaves.flatMap Operand.leafRaws

def Join.raws (j : Join) : List String :=
  j.table.toList.flatMap TableSource.raws ++ j.onConditions.flatMap Predicate.raws

/-- The raw pieces in the text of a query, outside nested queries.  Groups that are given up have no
text. -/
def Query.raws (q : Query) : List String :=
  q.columns.flatMap Column.raws ++
    (q.fromClause.bind FromClause.table).toList.flatMap TableSource.raws ++
    q.arrayJoin.toList.flatMap (·.array.raws) ++
    q.joins.flatMap Join.raws ++
    q.preWheres.flatMap Predicate.raws ++
    q.wheres.flatMap Predicate.raws ++
    (if q.groups.any Column.isStar then [] else q.groups.flatMap Column.raws) ++
    q.havings.flatMap Predicate.raws ++
    q.orders.flatMap (·.column.raws) ++
    q.limitBy.toList.flatMap (·.columns.flatMap Column.raws)

/-- All texts stand in the given one, as they are. -/
def AllStandIn (es : List String) (sql : String) : Prop := ∀ e ∈ es, e.toList <:+: sql.toList

namespace AllStandIn

variable {es es' : List String} {sql sql' : String}

theorem nil (sql : String) : AllStandIn [] sql := List.forall_mem_nil _

theorem append (h : AllStandIn es sql) (h' : AllStandIn es' sql) : AllStandIn (es ++ es') sql :=
  List.forall_mem_append.mpr ⟨h, h'⟩

theorem mono (h : AllStandIn es sql) (hsub : sql.toList <:+: sql'.toList) : AllStandIn es sql' :=
  fun e he => (h e he).trans hsub

end AllStandIn

/-! ### Values and columns -/

mutual

theorem Value.raws_standIn : ∀ v : Value, AllStandIn v.raws v.sql
  | .raw sql => by
      rw [Value.raws, Value.sql]
      exact List.forall_mem_singleton.mpr List.infix_rfl
  | .array items => by
      rw [Value.raws, Value.sql]
      intro e he
      obtain ⟨s, hs, hstands⟩ := Value.rawsOfList_standIn items e he
      exact ((hstands.trans (Text.isInfix_commaList hs)).trans (isInfix_append_right "[" _)).trans
        (isInfix_append_left _ _)
  | .null | .bool _ | .int _ | .uint _ | .float _ | .string _ | .identifier _ => nofun

theorem Value.rawsOfList_standIn : ∀ vs : List Value,
    ∀ e ∈ Value.rawsOfList vs, ∃ s ∈ Value.sqlList vs, e.toList <:+: s.toList
  | [] => nofun
  | v :: vs => by
      rw [Value.rawsOfList, Value.sqlList]
      intro e he
      rcases List.mem_append.mp he with he | he
      · exact ⟨v.sql, List.mem_cons_self, Value.raws_standIn v e he⟩
      · obtain ⟨s, hs, hstands⟩ := Value.rawsOfList_standIn vs e he
        exact ⟨s, List.mem_cons_of_mem _ hs, hstands⟩

end

/-- The argument of a function stands in its text. -/
theorem ColumnFunction.raws_standIn (previous : Option ColumnFunction) (inner : String)
    (f : ColumnFunction) : AllStandIn f.raws (f.apply previous inner) := by
  have hlast (v : Value) (front : String) : AllStandIn v.raws (front ++ v.sql) :=
    v.raws_standIn.mono (isInfix_append_right _ _)
  unfold apply
  split
  case h_3 v => exact hlast v _
  case h_4 v => split <;> exact hlast v _
  case h_8 op v => exact (hlast v _).mono (isInfix_append_left _ _)
  all_goals exact AllStandIn.nil _

theorem ColumnFunction.rawsOfAll_standIn {fs : List ColumnFunction} {es : List String}
    {inner : String} (h : AllStandIn es inner) (previous : Option ColumnFunction) :
    AllStandIn (rawsOfAll es fs) (applyAll previous inner fs) := by
  induction fs generalizing es inner previous with
  | nil => exact h
  | cons f fs ih =>
      rw [rawsOfAll, applyAll]
      refine ih ?_ (some f)
      split
      · exact AllStandIn.nil _
      · rename_i hcount
        exact (h.mono (isInfix_apply hcount previous inner)).append
          (f.raws_standIn previous inner)

mutual

theorem ColumnSource.yields_raws : ∀ s : ColumnSource, Yields (AllStandIn s.raws) s.toSql
  | .value v => by
      rw [ColumnSource.raws, ColumnSource.toSql]
      exact Yields.pure v.raws_standIn
  | .column c => by
      rw [ColumnSource.raws, ColumnSource.toSql]
      exact (Column.yields_raws c).map fun sql h => h.mono (isInfix_parenthesized sql)
  | .query q => by
      rw [ColumnSource.raws]
      exact fun _ _ => AllStandIn.nil _

theorem ColumnSource.yields_rawsOfOption : ∀ s : Option ColumnSource,
    Yields (AllStandIn (ColumnSource.rawsOfOption s)) (ColumnSource.toSqlOrNothing s)
  | none => by
      rw [ColumnSource.rawsOfOption]
      exact fun _ _ => AllStandIn.nil _
  | some s => by
      rw [ColumnSource.rawsOfOption, ColumnSource.toSqlOrNothing]
      exact ColumnSource.yields_raws s

theorem Column.yields_raws : ∀ c : Column, Yields (AllStandIn c.raws) c.toSql
  | ⟨source, aliasName, functions⟩ => by
      rw [Column.raws, Column.toSql]
      refine (ColumnSource.yields_rawsOfOption source).map fun inner h => ?_
      exact (ColumnFunction.rawsOfAll_standIn h none).mono (isInfix_aliased _ aliasName)

end

/-- A column in an ARRAY JOIN clause stands without parentheses. -/
theorem ColumnSource.yields_raws_bare : ∀ s : ColumnSource, Yields (AllStandIn s.raws) s.toSqlBare
  | .value v => by
      rw [ColumnSource.raws, ColumnSource.toSqlBare]
      exact Yields.pure v.raws_standIn
  | .column c => by
      rw [ColumnSource.raws, ColumnSource.toSqlBare]
      exact c.yields_raws
  | .query q => by
      rw [ColumnSource.raws]
      exact fun _ _ => AllStandIn.nil _

/-! ### Tables and conditions -/

theorem TableSource.yields_raws (t : TableSource) : Yields (AllStandIn t.raws) t.toSql := by
  cases t with
  | raw sql =>
      rw [raws, toSql]
      exact Yields.pure (List.forall_mem_singleton.mpr List.infix_rfl)
  | name | query => exact fun _ _ => AllStandIn.nil _

theorem Operand.yields_leafRaws (o : Operand) : Yields (AllStandIn o.leafRaws) o.toSql := by
  cases o with
  | value v =>
      rw [leafRaws, toSql]
      exact Yields.pure v.raws_standIn
  | tuple t =>
      rw [leafRaws, toSql]
      refine Yields.pure fun e he => ?_
      obtain ⟨s, hs, hstands⟩ := Value.rawsOfList_standIn t.elements e he
      exact (hstands.trans (Text.isInfix_commaList hs)).trans (isInfix_parenthesized _)
  | column c =>
      rw [leafRaws, toSql]
      exact c.yields_raws
  | group | predicate | query => exact fun _ _ => AllStandIn.nil _

theorem Predicate.yields_raws (p : Predicate) : Yields (AllStandIn p.raws) p.toSql := by
  intro sql hsql e he
  obtain ⟨o, ho, he⟩ := List.mem_flatMap.mp he
  obtain ⟨text, htext, hstands⟩ := p.yields_leaves sql hsql o ho
  exact (o.yields_leafRaws text htext e he).trans hstands

/-! ### Lists of parts -/

section Lists

variable {e : String}

theorem Column.exists_standIn {cs : List Column} {ts : List String}
    (h : List.Forall₂ (fun c t => Column.toSql c = .ok t) cs ts) (he : e ∈ cs.flatMap raws) :
    ∃ t ∈ ts, e.toList <:+: t.toList := by
  obtain ⟨c, hc, he⟩ := List.mem_flatMap.mp he
  obtain ⟨t, ht, htext⟩ := exists_of_forall₂ h hc
  exact ⟨t, ht, c.yields_raws t htext e he⟩

theorem Predicate.raws_standIn {ps : List Predicate} {conditions : List (Conjunction × String)}
    (h : toSqlList ps = .ok conditions) : AllStandIn (ps.flatMap raws) (linked conditions) := by
  intro e he
  obtain ⟨p, hp, he⟩ := List.mem_flatMap.mp he
  rw [toSqlList_eq_mapM] at h
  obtain ⟨c, hc, htext⟩ := exists_of_mapM_eq_ok h hp
  obtain ⟨sql, hsql, rfl⟩ := map_eq_ok_iff.mp htext
  exact (p.yields_raws sql hsql e he).trans (isInfix_linked hc)

theorem Order.exists_standIn {os : List Order} {entries : List String}
    (h : toSqlList os = .ok entries) (he : e ∈ os.flatMap (·.column.raws)) :
    ∃ t ∈ entries, e.toList <:+: t.toList := by
  obtain ⟨⟨column, direction, collation⟩, ho, he⟩ := List.mem_flatMap.mp he
  rw [toSqlList_eq_mapM] at h
  obtain ⟨text, hmem, htext⟩ := exists_of_mapM_eq_ok h ho
  rw [toSql] at htext
  obtain ⟨sql, hsql, htext⟩ := bind_eq_ok.mp htext
  obtain rfl := Except.ok.inj htext
  exact ⟨_, hmem, (column.yields_raws sql hsql e he).trans (isInfix_orderText _ _ _)⟩

end Lists

theorem FromClause.yields_raws (f : Option FromClause) :
    Yields (AllStandIn ((f.bind table).toList.flatMap TableSource.raws)) (toSqlOrNothing f) := by
  rcases f with - | ⟨- | source, aliasName, isFinal⟩
  · exact fun _ _ => AllStandIn.nil _
  · exact fun _ _ => AllStandIn.nil _
  · rw [toSqlOrNothing, toSql, TableSource.toSqlOrMissing]
    have hraws : ((some ⟨some source, aliasName, isFinal⟩ : Option FromClause).bind
        table).toList.flatMap TableSource.raws = source.raws := List.append_nil _
    rw [hraws]
    exact source.yields_raws.map fun sql h => h.mono (isInfix_fromText sql aliasName isFinal)

theorem ArrayJoin.yields_raws (a : Option ArrayJoin) :
    Yields (AllStandIn (a.toList.flatMap (·.array.raws))) (toSqlOrNothing a) := by
  rcases a with - | ⟨array, isLeft⟩
  · exact fun _ _ => AllStandIn.nil _
  · rw [toSqlOrNothing, toSql, Option.toList_some, List.flatMap_singleton]
    exact array.yields_raws_bare.map fun sql h => h.mono (isInfix_append_right _ _)

theorem LimitBy.yields_raws (l : Option LimitBy) :
    Yields (AllStandIn (l.toList.flatMap (·.columns.flatMap Column.raws))) (toSqlOrNothing l) := by
  rcases l with - | ⟨limit, columns⟩
  · exact fun _ _ => AllStandIn.nil _
  · rw [toSqlOrNothing, toSql, Option.toList_some, List.flatMap_singleton]
    refine Yields.map (P := fun ts => ∀ e ∈ columns.flatMap Column.raws,
      ∃ t ∈ ts, e.toList <:+: t.toList) (fun ts hts e he => ?_) fun ts h e he => ?_
    · exact Column.exists_standIn (Column.forall₂_of_toSqlList hts) he
    · obtain ⟨t, ht, hstands⟩ := h e he
      exact (hstands.trans (Text.isInfix_commaList ht)).trans (isInfix_append_right _ _)

theorem Column.raws_standIn_groupClause {groups : List Column} {texts : Option (List String)}
    (h : toSqlGroups groups = .ok texts) :
    AllStandIn (if groups.any isStar then [] else groups.flatMap raws) (groupClause texts) := by
  rcases toSqlGroups_eq_ok h with ⟨hstar, -⟩ | ⟨hstar, sqls, rfl, hsqls⟩
  · rw [if_pos hstar]
    exact AllStandIn.nil _
  · rw [if_neg hstar]
    intro e he
    obtain ⟨sql, hmem, hstands⟩ := exists_standIn hsqls he
    exact hstands.trans (isInfix_groupClause hmem)

/-! ### Fragments -/

/-- A text that is trimmed when the join is put together: that of its table or that of its keys. -/
def Join.IsFragment (j : Join) (text : String) : Prop :=
  ∃ table conditions, TableSource.toSqlOrMissing j.table = .ok table ∧
    Predicate.toSqlList j.onConditions = .ok conditions ∧
    (text = table ∨ text = joinKeys j.usingColumns conditions)

/-- A text that is trimmed when the query is put together: a clause, or a fragment of a join. -/
def Query.IsFragment (q : Query) (text : String) : Prop :=
  (∃ t : PartTexts, t.AreOf q ∧ text ∈ t.pieces q) ∨ ∃ j ∈ q.joins, j.IsFragment text

theorem Join.IsFragment.isInfix_trim {j : Join} {text sql : String} (h : j.IsFragment text)
    (hsql : j.toSql = .ok sql) : (Text.trim text).toList <:+: sql.toList := by
  obtain ⟨table, conditions, htable, hconditions, htext⟩ := h
  obtain ⟨source, strictness, kind, aliasName, isGlobal, usingColumns, onConditions⟩ := j
  rw [toSql] at hsql
  obtain ⟨u, -, hsql⟩ := bind_eq_ok.mp hsql
  rw [htable, hconditions] at hsql
  obtain rfl := Except.ok.inj hsql
  refine Text.isInfix_words (List.mem_map_of_mem ?_)
  rcases htext with rfl | rfl <;> simp

theorem Query.IsFragment.isInfix_trim {q : Query} {text sql : String} (h : q.IsFragment text)
    (hsql : q.toSql = .ok sql) : (Text.trim text).toList <:+: sql.toList := by
  rcases h with ⟨t, ht, htext⟩ | ⟨j, hj, hfragment⟩
  · obtain rfl := Except.ok.inj ((toSql_eq_ok_iff.mpr ⟨t, ht, rfl⟩).symm.trans hsql)
    exact Text.isInfix_words (List.mem_map_of_mem htext)
  · obtain ⟨t, ht, rfl⟩ := toSql_eq_ok_iff.mp hsql
    have hjoins := ht.joins
    rw [Join.toSqlList_eq_mapM] at hjoins
    obtain ⟨join, hjoin, hjoinSql⟩ := exists_of_mapM_eq_ok hjoins hj
    have hstands : (Text.trim text).toList <:+: (joinClauses t.joins).toList :=
      (hfragment.isInfix_trim hjoinSql).trans (Text.isInfix_join " " hjoin)
    by_cases hempty : (Text.trim text).toList = []
    · rw [hempty]
      exact List.nil_infix
    · rw [Text.toList_trim] at hempty hstands ⊢
      exact (Text.solid_trimChars hempty).isInfix_fragments (by simp [PartTexts.pieces]) hstands

theorem Join.exists_fragment {j : Join} {sql e : String} (hsql : j.toSql = .ok sql)
    (he : e ∈ j.raws) : ∃ text, j.IsFragment text ∧ e.toList <:+: text.toList := by
  obtain ⟨source, strictness, kind, aliasName, isGlobal, usingColumns, onConditions⟩ := j
  rw [toSql] at hsql
  simp only [bind_eq_ok] at hsql
  obtain ⟨u, hcheck, table, htable, conditions, hconditions, -⟩ := hsql
  rcases List.mem_append.mp he with he | he
  · refine ⟨table, ⟨table, conditions, htable, hconditions, .inl rfl⟩, ?_⟩
    cases source with
    | none => cases he
    | some source =>
        rw [Option.toList_some, List.flatMap_singleton] at he
        exact source.yields_raws table htable e he
  · refine ⟨_, ⟨table, conditions, htable, hconditions, .inr rfl⟩, ?_⟩
    cases usingColumns with
    | nil =>
        exact (Predicate.raws_standIn hconditions e he).trans (isInfix_append_right "ON " _)
    | cons c cs =>
        obtain rfl := onConditions_eq_nil_of_check hcheck
        cases he

/-- A raw piece stands in a fragment as it is. -/
theorem Query.exists_fragment {q : Query} {sql e : String} (hsql : q.toSql = .ok sql)
    (he : e ∈ q.raws) : ∃ text, q.IsFragment text ∧ e.toList <:+: text.toList := by
  obtain ⟨t, ht, -⟩ := toSql_eq_ok_iff.mp hsql
  have hpiece {text : String} (hmem : text ∈ t.pieces q) (hstands : e.toList <:+: text.toList) :
      ∃ text, q.IsFragment text ∧ e.toList <:+: text.toList := ⟨text, .inl ⟨t, ht, hmem⟩, hstands⟩
  simp only [raws, List.mem_append] at he
  rcases he with ((((((((he | he) | he) | he) | he) | he) | he) | he) | he) | he
  · obtain ⟨s, hs, hstands⟩ := Column.exists_standIn (Column.forall₂_of_toSqlList ht.columns) he
    exact hpiece (by simp [PartTexts.pieces]) (hstands.trans (isInfix_selectList hs))
  · exact hpiece (by simp [PartTexts.pieces])
      (FromClause.yields_raws _ _ ht.fromClause e he)
  · exact hpiece (by simp [PartTexts.pieces]) (ArrayJoin.yields_raws _ _ ht.arrayJoin e he)
  · obtain ⟨j, hj, he⟩ := List.mem_flatMap.mp he
    have hjoins := ht.joins
    rw [Join.toSqlList_eq_mapM] at hjoins
    obtain ⟨join, -, hjoin⟩ := exists_of_mapM_eq_ok hjoins hj
    obtain ⟨text, hfragment, hstands⟩ := Join.exists_fragment hjoin he
    exact ⟨text, .inr ⟨j, hj, hfragment⟩, hstands⟩
  · exact hpiece (by simp [PartTexts.pieces])
      ((Predicate.raws_standIn ht.preWheres e he).trans (Text.isInfix_clause "PREWHERE" _))
  · exact hpiece (by simp [PartTexts.pieces])
      ((Predicate.raws_standIn ht.wheres e he).trans (Text.isInfix_clause "WHERE" _))
  · exact hpiece (by simp [PartTexts.pieces]) (Column.raws_standIn_groupClause ht.groups e he)
  · exact hpiece (by simp [PartTexts.pieces])
      ((Predicate.raws_standIn ht.havings e he).trans (Text.isInfix_clause "HAVING" _))
  · obtain ⟨s, hs, hstands⟩ := Order.exists_standIn ht.orders he
    exact hpiece (by simp [PartTexts.pieces]) (hstands.trans (isInfix_orderClauseOrNothing hs))
  · exact hpiece (by simp [PartTexts.pieces]) (LimitBy.yields_raws _ _ ht.limitBy e he)

/-! ### Raw pieces in the text -/

namespace Text

variable {before e after : String}

/-- The text between the others is whole without the blanks at both ends. -/
def StaysWhole (before e after : String) : Prop :=
  ∃ front back, front <:+ before.toList ∧ back <+: after.toList ∧
    trimChars (before ++ e ++ after).toList = front ++ e.toList ++ back

theorem isInfix_trim_self (s : String) : (trim s).toList <:+: s.toList := by
  rw [toList_trim, trimChars, trimEnd, ← List.reverse_infix, List.reverse_reverse]
  have hsuffix := (List.dropWhile_suffix (l := (s.toList.dropWhile isBlank).reverse) isBlank)
  exact hsuffix.isInfix.trans (List.reverse_infix.mpr (List.dropWhile_suffix isBlank).isInfix)

theorem isInfix_trim_of_isInfix {s t : String} (h : s.toList <:+: t.toList) :
    (trim s).toList <:+: (trim t).toList := by
  by_cases hempty : (trim s).toList = []
  · rw [hempty]
    exact List.nil_infix
  · have hstands := (isInfix_trim_self s).trans h
    rw [toList_trim] at hempty hstands ⊢
    rw [toList_trim]
    exact (solid_trimChars hempty).isInfix_trimChars hstands

theorem StaysWhole.isInfix (h : StaysWhole before e after) :
    e.toList <:+: (trim (before ++ e ++ after)).toList := by
  obtain ⟨front, back, -, -, htrim⟩ := h
  rw [toList_trim, htrim]
  exact List.infix_append _ _ _

/-- Behind blanks no part of a solid text begins with a blank, as there are no blanks in front. -/
theorem Solid.not_isBlank_head? {front t back : List Char} (h : Solid (front ++ t ++ back))
    (hfront : ∀ c ∈ front, isBlank c) : ∀ c ∈ t.head?, ¬ isBlank c := by
  obtain ⟨-, hhead, -⟩ := h
  cases front with
  | nil =>
      cases t with
      | nil => exact nofun
      | cons c t => exact hhead
  | cons d front => exact absurd (hfront d List.mem_cons_self) (hhead d rfl)

/-- A text is whole unless it begins with a blank where nothing but blanks stands before it, or
ends with one where nothing but blanks stands behind it. -/
theorem staysWhole_iff (hne : e ≠ "") :
    StaysWhole before e after ↔
      (IsBlank before → ∀ c ∈ e.toList.head?, ¬ isBlank c) ∧
        (IsBlank after → ∀ c ∈ e.toList.getLast?, ¬ isBlank c) := by
  have hchars : e.toList ≠ [] := mt String.toList_eq_nil_iff.mp hne
  constructor
  · rintro ⟨front, back, hfront, hback, htrim⟩
    have hsolid : Solid (front ++ e.toList ++ back) := by
      rw [← htrim]
      refine solid_trimChars ?_
      rw [htrim]
      simp [hchars]
    have hreverse : Solid (back.reverse ++ e.toList.reverse ++ front.reverse) := by
      simpa using hsolid.reverse
    constructor
    · exact fun hbefore => hsolid.not_isBlank_head? fun c hc => hbefore c (hfront.subset hc)
    · intro hafter
      have hback : ∀ c ∈ back.reverse, isBlank c := fun c hc =>
        hafter c (hback.subset (List.mem_reverse.mp hc))
      simpa using hreverse.not_isBlank_head? hback
  · rintro ⟨hhead, hlast⟩
    rw [StaysWhole, String.toList_append, String.toList_append]
    exact exists_trimChars_eq _ _ hchars hhead hlast

end Text

namespace Query

variable {q r : Query} {sql e : String}

/-- **A raw piece stands in the text without those blanks at its ends that are at an end of its
clause.**  It is part of a clause, or of a fragment of a join, and this stands in the text without
the blanks at its ends.  So the raw piece stands there without the blanks at its own ends, and with
them if it stays whole, which it does unless it begins with a blank where nothing but blanks stands
before it in the fragment, or ends with one where nothing but blanks stands behind it. -/
theorem raws_standIn_fragment (hsql : q.toSql = .ok sql) (hr : r ∈ q.rendered) (he : e ∈ r.raws) :
    (Text.trim e).toList <:+: sql.toList ∧
    ∃ before after, r.IsFragment (before ++ e ++ after) ∧
      (Text.trim (before ++ e ++ after)).toList <:+: sql.toList ∧
      (Text.StaysWhole before e after → e.toList <:+: sql.toList) ∧
      (e ≠ "" → (Text.StaysWhole before e after ↔
        (Text.IsBlank before → ∀ c ∈ e.toList.head?, ¬ Text.isBlank c) ∧
          (Text.IsBlank after → ∀ c ∈ e.toList.getLast?, ¬ Text.isBlank c))) := by
  obtain ⟨text, htext, hinText⟩ := within_toSql hsql hr
  obtain ⟨fragment, hfragment, before, after, hparts⟩ := exists_fragment htext he
  obtain rfl : String.ofList before ++ e ++ String.ofList after = fragment := by
    rw [← String.toList_inj, ← hparts]
    simp
  have htrim := (hfragment.isInfix_trim htext).trans hinText
  refine ⟨Text.isInfix_trim_of_isInfix ⟨before, after, by simp⟩ |>.trans htrim, _, _, hfragment,
    htrim, fun hwhole => hwhole.isInfix.trans htrim, Text.staysWhole_iff⟩

/-- Behind a comment that ends in a line break stands the end of the group. -/
theorem raws_standIn_fragment_group :
    let q : Query :=
      { fromClause := some { table := some (.name ⟨"t"⟩) }
        wheres := [.single .and (.group [.single .and (.value (.raw "1 -- c\n"))])]
        limit := some { count := 1 } }
    let sql := "SELECT * FROM `t` WHERE (1 -- c\n) LIMIT 1"
    q.toSql = .ok sql ∧ q ∈ q.rendered ∧ "1 -- c\n" ∈ q.raws ∧
      (Text.trim "1 -- c\n").toList <:+: sql.toList := by
  intro q sql
  have hsql : q.toSql = .ok sql := rfl
  have hraw : "1 -- c\n" ∈ q.raws := by decide
  exact ⟨hsql, mem_rendered_self q, hraw,
    (raws_standIn_fragment hsql (mem_rendered_self q) hraw).1⟩

/-- A comment at the end of a clause loses its line break, and the clause behind it becomes part of
it. -/
theorem not_allStandIn_comment :
    let q : Query :=
      { fromClause := some { table := some (.name ⟨"t"⟩) }
        wheres := [.single .and (.value (.raw "1 -- c\n"))]
        limit := some { count := 1 } }
    let sql := "SELECT * FROM `t` WHERE 1 -- c LIMIT 1"
    q.toSql = .ok sql ∧ q ∈ q.rendered ∧ ¬ AllStandIn q.raws sql := by
  intro q sql
  refine ⟨rfl, mem_rendered_self q, fun h => ?_⟩
  have hstands := h "1 -- c\n" (by decide)
  exact absurd (hstands.subset (a := '\n') (by decide)) (by decide)

end Query

end FluentSql
