import FluentSql.Proofs.ClauseAlike
import FluentSql.Sql.Select

/-! # Queries under substitution of literals

Compiling a query without raw SQL and compiling it with other literals go the same way: both fail
with the same error, or both succeed with alike texts (`Query.alike_toSql`).  The proof goes through
the whole family of types that a query is made of, one lemma a type, and one case a constructor.

Two consequences.  Literals cannot interfere with the structure of SQL: the tokens of the two texts
agree, position by position, up to the literals themselves.  And a statement shows exactly its own
clauses outside brackets, in their fixed order, whatever is nested in it. -/

namespace FluentSql

/-- Both computations give results in a relation, or both fail with the same error. -/
inductive Both {ε α β : Type} (R : α → β → Prop) : Except ε α → Except ε β → Prop
  | ok {a : α} {b : β} (h : R a b) : Both R (.ok a) (.ok b)
  | error (e : ε) : Both R (.error e) (.error e)

namespace Both

variable {ε α β γ δ : Type} {R : α → β → Prop} {S : γ → δ → Prop}

theorem bind {x : Except ε α} {y : Except ε β} {g : α → Except ε γ} {h : β → Except ε δ}
    (hxy : Both R x y) (hgh : ∀ a b, x = .ok a → R a b → Both S (g a) (h b)) :
    Both S (x >>= g) (y >>= h) := by
  cases hxy with
  | ok hab => exact hgh _ _ rfl hab
  | error e => exact error e

theorem of_ok {x : Except ε α} {y : Except ε β} {a : α} (hxy : Both R x y) (hx : x = .ok a) :
    ∃ b, y = .ok b ∧ R a b := by
  subst hx
  cases hxy with
  | ok hab => exact ⟨_, rfl, hab⟩

theorem refl (x : Except ε α) : Both (fun _ _ => True) x x := by
  cases x with
  | ok a => exact ok trivial
  | error e => exact error e

theorem isOk_iff {x : Except ε α} {y : Except ε β} (hxy : Both R x y) :
    (∃ a, x = .ok a) ↔ ∃ b, y = .ok b := by
  cases hxy <;> simp

end Both

/-! ### The clauses of a query -/

/-- The clause, unless the text of its body is empty. -/
def Clause.ofFragment (c : Clause) : Except QueryError String → List Clause
  | .ok body => c.ofText body
  | .error _ => []

def ArrayJoin.clause (a : ArrayJoin) : Clause := .arrayJoin a.isLeft

def Join.clause (j : Join) : Clause := .join j.strictness j.kind

mutual

/-- The clauses of a query in their order: its own ones that are set, those with conditions or
groups only if these have text, and, for each query of its union, the keywords of the union and the
clauses of that query. -/
def Query.clauses : Query → List Clause
  | ⟨_, fromClause, sample, arrayJoin, joins, preWheres, wheres, groups, havings, orders, limitBy,
      limit, unions, format, _, _, _, _, _⟩ =>
      .columns ::
        (Clause.ofSet .fromClause fromClause.isSome ++
          Clause.ofSet .sample sample.isSome ++
          arrayJoin.toList.map ArrayJoin.clause ++
          joins.map Join.clause ++
          Clause.ofFragment .preWheres (Predicate.listToSql preWheres) ++
          Clause.ofFragment .wheres (Predicate.listToSql wheres) ++
          Clause.ofFragment .groups (groupClause <$> Column.toSqlGroups groups) ++
          Clause.ofFragment .havings (Predicate.listToSql havings) ++
          Clause.ofSet .orders (!orders.isEmpty) ++
          Clause.ofSet .limitBy limitBy.isSome ++
          Clause.ofSet .limit limit.isSome ++
          Query.unionClauses unions ++
          Clause.ofSet .format format.isSome)

def Query.unionClauses : List Query → List Clause
  | [] => []
  | q :: qs => .union :: (q.clauses ++ Query.unionClauses qs)

end

variable {f : String → String}

/-! ### Compiling -/

theorem Clause.flatMap_ofFragment {c : Clause} {x : Except QueryError String} {body : String}
    (h : x = .ok body) : (Clause.ofFragment c x).flatMap Clause.words = c.shown body := by
  subst h
  rfl

theorem Predicate.listToSql_of_toSqlList {ps : List Predicate}
    {conditions : List (Conjunction × String)} (h : toSqlList ps = .ok conditions) :
    listToSql ps = .ok (linked conditions) := by
  rw [listToSql, h]
  rfl

/-- Each entry of an ORDER BY clause is written. -/
theorem Order.isEmpty_of_toSqlList {os : List Order} {sqls : List String}
    (h : toSqlList os = .ok sqls) : os.isEmpty = sqls.isEmpty := by
  cases os with
  | nil =>
      obtain rfl : [] = sqls := Except.ok.inj h
      rfl
  | cons o os =>
      rw [toSqlList] at h
      obtain ⟨sql, -, h⟩ := bind_eq_ok.mp h
      obtain ⟨rest, -, h⟩ := bind_eq_ok.mp h
      obtain rfl := Except.ok.inj h
      rfl

theorem map_eq_ok {α : Type} (g : α → String) {x : Except QueryError α} {a : α}
    (h : x = .ok a) : g <$> x = .ok (g a) := by
  subst h
  rfl

theorem TableSource.isSome_mapStringsOption (t : Option TableSource) :
    (TableSource.mapStringsOption f t).isSome = t.isSome := by
  cases t <;> rfl

theorem Predicate.isEmpty_mapStringsList (ps : List Predicate) :
    (Predicate.mapStringsList f ps).isEmpty = ps.isEmpty := by
  cases ps <;> rfl

theorem Predicate.conjunction_mapStrings (p : Predicate) :
    (p.mapStrings f).conjunction = p.conjunction := by
  cases p
  rw [Predicate.mapStrings]

mutual

theorem ColumnSource.alike_toSql : ∀ s : ColumnSource, s.isRawFree →
    Both (Alike f []) s.toSql (s.mapStrings f).toSql
  | .value v, h => Both.ok (Value.alike_sql v h)
  | .column c, h => (Column.alike_toSql c h).bind fun _ _ _ hsql => Both.ok hsql.parenthesized
  | .query q, h => (Query.alike_toSql q h).bind fun _ _ _ hsql => Both.ok hsql.parenthesized

theorem ColumnSource.alike_toSqlOrNothing : ∀ s : Option ColumnSource,
    ColumnSource.isRawFreeOption s →
      Both (Alike f []) (ColumnSource.toSqlOrNothing s)
        (ColumnSource.toSqlOrNothing (ColumnSource.mapStringsOption f s))
  | none, _ => Both.ok Alike.empty
  | some s, h => ColumnSource.alike_toSql s h

theorem Column.alike_toSql : ∀ c : Column, c.isRawFree →
    Both (Alike f []) c.toSql (c.mapStrings f).toSql
  | ⟨source, aliasName, functions⟩, h => by
      obtain ⟨hsource, hfunctions⟩ := Bool.and_eq_true_iff.mp h
      refine (ColumnSource.alike_toSqlOrNothing source hsource).bind fun _ _ _ hinner => ?_
      have happlied := ColumnFunction.alike_applyAll none hfunctions hinner
      exact Both.ok (alike_aliased happlied aliasName)

theorem Column.alike_toSqlList : ∀ cs : List Column, Column.isRawFreeList cs →
    Both (AlikeAll f []) (Column.toSqlList cs) (Column.toSqlList (Column.mapStringsList f cs))
  | [], _ => Both.ok AlikeAll.nil
  | c :: cs, h => by
      obtain ⟨hc, hcs⟩ := Bool.and_eq_true_iff.mp h
      refine (Column.alike_toSql c hc).bind fun _ _ _ hsql => ?_
      exact (Column.alike_toSqlList cs hcs).bind fun _ _ _ hrest =>
        Both.ok (AlikeAll.cons hsql hrest)

/-- Whether a grouping column is `*` does not depend on literals. -/
theorem Column.alike_toSqlGroups : ∀ cs : List Column, Column.isRawFreeList cs →
    Both (AlikeGroups f) (Column.toSqlGroups cs)
      (Column.toSqlGroups (Column.mapStringsList f cs))
  | [], _ => Both.ok (AlikeGroups.some AlikeAll.nil)
  | c :: cs, h => by
      obtain ⟨hc, hcs⟩ := Bool.and_eq_true_iff.mp h
      refine (Column.alike_toSql c hc).bind fun sql sql' _ hsql => ?_
      by_cases hstar : sql = "*"
      · rw [if_pos hstar, if_pos (hsql.eq_star_iff.mp hstar)]
        exact Both.ok AlikeGroups.none
      · rw [if_neg hstar, if_neg fun hstar' => hstar (hsql.eq_star_iff.mpr hstar')]
        refine (Column.alike_toSqlGroups cs hcs).bind fun _ _ _ hrest => ?_
        cases hrest with
        | none => exact Both.ok AlikeGroups.none
        | some hrest => exact Both.ok (AlikeGroups.some (AlikeAll.cons hsql hrest))

theorem TableSource.alike_toSql : ∀ t : TableSource, t.isRawFree →
    Both (Alike f []) t.toSql (t.mapStrings f).toSql
  | .name id, _ => Both.ok id.alike_quoted
  | .raw _, h => nomatch h
  | .query q, h => (Query.alike_toSql q h).bind fun _ _ _ hsql => Both.ok hsql.parenthesized

theorem TableSource.alike_toSqlOrMissing : ∀ t : Option TableSource,
    TableSource.isRawFreeOption t →
      Both (Alike f []) (TableSource.toSqlOrMissing t)
        (TableSource.toSqlOrMissing (TableSource.mapStringsOption f t))
  | none, _ => Both.error QueryError.missingFrom
  | some t, h => TableSource.alike_toSql t h

theorem FromClause.alike_toSqlOrNothing : ∀ c : Option FromClause, FromClause.isRawFreeOption c →
    Both (Alike f (Clause.fromClause.wordsIf c.isSome)) (FromClause.toSqlOrNothing c)
      (FromClause.toSqlOrNothing (FromClause.mapStringsOption f c))
  | none, _ => Both.ok Alike.empty
  | some ⟨table, aliasName, isFinal⟩, h =>
      (TableSource.alike_toSqlOrMissing table h).bind fun _ _ _ htable =>
        Both.ok (Alike.wordsIf_true (alike_fromText htable aliasName isFinal))

theorem ColumnSource.alike_toSqlBare : ∀ s : ColumnSource, s.isRawFree →
    Both (Alike f []) s.toSqlBare (s.mapStrings f).toSqlBare
  | .value v, h => Both.ok (Value.alike_sql v h)
  | .column c, h => Column.alike_toSql c h
  | .query q, h => (Query.alike_toSql q h).bind fun _ _ _ hsql => Both.ok hsql.parenthesized

theorem ArrayJoin.alike_toSqlOrNothing : ∀ a : Option ArrayJoin, ArrayJoin.isRawFreeOption a →
    Both (Alike f ((a.toList.map ArrayJoin.clause).flatMap Clause.words))
      (ArrayJoin.toSqlOrNothing a) (ArrayJoin.toSqlOrNothing (ArrayJoin.mapStringsOption f a))
  | none, _ => Both.ok Alike.empty
  | some ⟨array, isLeft⟩, h =>
      (ColumnSource.alike_toSqlBare array h).bind fun _ _ _ harray =>
        Both.ok (Alike.wordsIf_true (alike_arrayJoinText isLeft harray))

theorem Join.alike_toSql : ∀ j : Join, j.isRawFree →
    Both (Alike f j.clause.words) j.toSql (j.mapStrings f).toSql
  | ⟨table, strictness, kind, aliasName, isGlobal, usingColumns, onConditions⟩, h => by
      obtain ⟨htable, hon⟩ := Bool.and_eq_true_iff.mp h
      have hcheck :=
        Both.refl (Join.check table.isSome (usingColumns ≠ []) (¬ onConditions.isEmpty))
      rw [Join.mapStrings, Join.toSql, Join.toSql, TableSource.isSome_mapStringsOption,
        Predicate.isEmpty_mapStringsList]
      refine hcheck.bind fun _ _ _ _ => ?_
      refine (TableSource.alike_toSqlOrMissing table htable).bind fun _ _ _ hsql => ?_
      refine (Predicate.alike_toSqlList onConditions hon).bind fun _ _ _ hconditions => ?_
      exact Both.ok (alike_joinText isGlobal strictness kind hsql aliasName
        (alike_joinKeys usingColumns hconditions))

theorem Join.alike_toSqlList : ∀ js : List Join, Join.isRawFreeList js →
    Both (AlikeAll f ((js.map Join.clause).flatMap Clause.words)) (Join.toSqlList js)
      (Join.toSqlList (Join.mapStringsList f js))
  | [], _ => Both.ok AlikeAll.nil
  | j :: js, h => by
      obtain ⟨hj, hjs⟩ := Bool.and_eq_true_iff.mp h
      refine (Join.alike_toSql j hj).bind fun _ _ _ hsql => ?_
      exact (Join.alike_toSqlList js hjs).bind fun _ _ _ hrest =>
        Both.ok (AlikeAll.cons hsql hrest)

theorem Operand.alike_toSql : ∀ o : Operand, o.isRawFree →
    Both (Alike f []) o.toSql (o.mapStrings f).toSql
  | .value v, h => Both.ok (Value.alike_sql v h)
  | .tuple ⟨_⟩, h => Both.ok (Tuple.alike_sql h).parenthesized
  | .column c, h => Column.alike_toSql c h
  | .group ps, h =>
      (Predicate.alike_toSqlList ps h).bind fun _ _ _ hps => Both.ok hps.linked.parenthesized
  | .predicate p, h => Predicate.alike_toSql p h
  | .query q, h => (Query.alike_toSql q h).bind fun _ _ _ hsql => Both.ok hsql.parenthesized

theorem Operand.alike_toSqlOrNothing : ∀ o : Option Operand, Operand.isRawFreeOption o →
    Both (Alike f []) (Operand.toSqlOrNothing o)
      (Operand.toSqlOrNothing (Operand.mapStringsOption f o))
  | none, _ => Both.ok Alike.empty
  | some o, h => Operand.alike_toSql o h

theorem Predicate.alike_toSql : ∀ p : Predicate, p.isRawFree →
    Both (Alike f []) p.toSql (p.mapStrings f).toSql
  | ⟨first, operator, second, _⟩, h => by
      obtain ⟨hfirst, hsecond⟩ := Bool.and_eq_true_iff.mp h
      refine (Operand.alike_toSql first hfirst).bind fun _ _ _ hsql => ?_
      exact (Operand.alike_toSqlOrNothing second hsecond).bind fun _ _ _ hsql' =>
        Both.ok (alike_relation hsql hsql' operator)

theorem Predicate.alike_toSqlList : ∀ ps : List Predicate, Predicate.isRawFreeList ps →
    Both (AlikeConditions f) (Predicate.toSqlList ps)
      (Predicate.toSqlList (Predicate.mapStringsList f ps))
  | [], _ => Both.ok List.Forall₂.nil
  | p :: ps, h => by
      obtain ⟨hp, hps⟩ := Bool.and_eq_true_iff.mp h
      refine (Predicate.alike_toSql p hp).bind fun _ _ _ hsql => ?_
      refine (Predicate.alike_toSqlList ps hps).bind fun _ _ _ hrest => ?_
      exact Both.ok (List.Forall₂.cons ⟨p.conjunction_mapStrings.symm, hsql⟩ hrest)

theorem Order.alike_toSqlList : ∀ os : List Order, Order.isRawFreeList os →
    Both (AlikeAll f []) (Order.toSqlList os) (Order.toSqlList (Order.mapStringsList f os))
  | [], _ => Both.ok AlikeAll.nil
  | ⟨column, direction, collation⟩ :: os, h => by
      obtain ⟨hcolumn, hos⟩ := Bool.and_eq_true_iff.mp h
      have horder : Both (Alike f []) (Order.toSql ⟨column, direction, collation⟩)
          (Order.toSql (Order.mapStrings f ⟨column, direction, collation⟩)) :=
        (Column.alike_toSql column hcolumn).bind fun _ _ _ hsql =>
          Both.ok (alike_orderText hsql direction collation)
      refine horder.bind fun _ _ _ hsql => ?_
      exact (Order.alike_toSqlList os hos).bind fun _ _ _ hrest =>
        Both.ok (AlikeAll.cons hsql hrest)

theorem LimitBy.alike_toSqlOrNothing : ∀ l : Option LimitBy, LimitBy.isRawFreeOption l →
    Both (Alike f (Clause.limitBy.wordsIf l.isSome)) (LimitBy.toSqlOrNothing l)
      (LimitBy.toSqlOrNothing (LimitBy.mapStringsOption f l))
  | none, _ => Both.ok Alike.empty
  | some ⟨limit, columns⟩, h =>
      (Column.alike_toSqlList columns h).bind fun _ _ _ hcolumns =>
        Both.ok (Alike.wordsIf_true (alike_limitBy limit hcolumns))

theorem Query.alike_toSql : ∀ q : Query, q.isRawFree →
    Both (Alike f (q.clauses.flatMap Clause.words)) q.toSql (q.mapStrings f).toSql
  | ⟨columns, fromClause, sample, arrayJoin, joins, preWheres, wheres, groups, havings, orders,
      limitBy, limit, unions, format, _, _, _, _, fault⟩, h => by
      simp only [Query.isRawFree, Bool.and_eq_true] at h
      obtain ⟨⟨⟨⟨⟨⟨⟨⟨⟨⟨hcolumns, hfrom⟩, harray⟩, hjoins⟩, hpre⟩, hwheres⟩, hgroups⟩, hhavings⟩,
        horders⟩, hlimitBy⟩, hunions⟩ := h
      rw [Query.mapStrings, Query.toSql, Query.toSql]
      refine (Both.refl (ArgumentFault.check fault)).bind fun _ _ _ _ => ?_
      refine (Column.alike_toSqlList columns hcolumns).bind fun _ _ _ hcolumns => ?_
      refine (FromClause.alike_toSqlOrNothing fromClause hfrom).bind fun _ _ _ hfrom => ?_
      refine (ArrayJoin.alike_toSqlOrNothing arrayJoin harray).bind fun _ _ _ harray => ?_
      refine (Join.alike_toSqlList joins hjoins).bind fun _ _ _ hjoins => ?_
      refine (Predicate.alike_toSqlList preWheres hpre).bind fun _ _ epre hpre => ?_
      refine (Predicate.alike_toSqlList wheres hwheres).bind fun _ _ ewheres hwheres => ?_
      refine (Column.alike_toSqlGroups groups hgroups).bind fun _ _ egroups hgroups => ?_
      refine (Predicate.alike_toSqlList havings hhavings).bind fun _ _ ehavings hhavings => ?_
      refine (Order.alike_toSqlList orders horders).bind fun _ _ eorders horders => ?_
      refine (LimitBy.alike_toSqlOrNothing limitBy hlimitBy).bind fun _ _ _ hlimitBy => ?_
      refine (Query.alike_toSqlList unions hunions).bind fun _ _ _ hunions => ?_
      have hselect : Alike f Clause.columns.words "SELECT" "SELECT" := Alike.fixed (by decide)
      have hpieces := AlikeAll.cons hselect <|
        AlikeAll.cons (alike_selectList hcolumns) <|
        AlikeAll.cons hfrom <|
        AlikeAll.cons (alike_sampleClause sample) <|
        AlikeAll.cons harray <|
        AlikeAll.cons (alike_joinClauses hjoins) <|
        AlikeAll.cons (hpre.linked.clause (c := .preWheres) (k := "PREWHERE")
          (by decide) (by decide)) <|
        AlikeAll.cons (hwheres.linked.clause (c := .wheres) (k := "WHERE")
          (by decide) (by decide)) <|
        AlikeAll.cons hgroups.groupClause <|
        AlikeAll.cons (hhavings.linked.clause (c := .havings) (k := "HAVING")
          (by decide) (by decide)) <|
        AlikeAll.cons (alike_orderClauseOrNothing horders) <|
        AlikeAll.cons hlimitBy <|
        AlikeAll.cons (alike_limitClause limit) <|
        AlikeAll.cons (alike_unionClause hunions) <|
        AlikeAll.cons (alike_formatClause format) AlikeAll.nil
      simp only [Query.clauses, List.flatMap_cons, List.flatMap_append, List.append_assoc,
        Clause.flatMap_ofFragment (Predicate.listToSql_of_toSqlList epre),
        Clause.flatMap_ofFragment (Predicate.listToSql_of_toSqlList ewheres),
        Clause.flatMap_ofFragment (map_eq_ok groupClause egroups),
        Clause.flatMap_ofFragment (Predicate.listToSql_of_toSqlList ehavings),
        Order.isEmpty_of_toSqlList eorders]
      rw [List.append_nil, List.nil_append] at hpieces
      exact Both.ok hpieces.fragments

/-- The queries of a union, each behind its keywords. -/
theorem Query.alike_toSqlList : ∀ qs : List Query, Query.isRawFreeList qs →
    Both (fun ss ss' => AlikeAll f ((Query.unionClauses qs).flatMap Clause.words)
      (ss.map ("UNION ALL " ++ ·)) (ss'.map ("UNION ALL " ++ ·)))
      (Query.toSqlList qs) (Query.toSqlList (Query.mapStringsList f qs))
  | [], _ => Both.ok AlikeAll.nil
  | q :: qs, h => by
      obtain ⟨hq, hqs⟩ := Bool.and_eq_true_iff.mp h
      refine (Query.alike_toSql q hq).bind fun _ _ _ hsql => ?_
      refine (Query.alike_toSqlList qs hqs).bind fun _ _ _ hrest => ?_
      have hall := AlikeAll.cons hsql.unionAll hrest
      rw [List.append_assoc, ← List.flatMap_append] at hall
      exact Both.ok hall

end

/-! ### Literals and the structure of SQL -/

/-- **String literals cannot interfere with the structure of SQL**: with other literals in its place
a query without raw SQL compiles or fails as before, and the tokens of the two texts agree at every
position, where a literal for `s` in the first is the literal for `f s` in the second. -/
theorem Query.tokens_toSql_mapStrings {q : Query} (hq : q.isRawFree) (f : String → String) :
    ((∃ sql, q.toSql = .ok sql) ↔ ∃ sql', (q.mapStrings f).toSql = .ok sql') ∧
      ∀ sql sql', q.toSql = .ok sql → (q.mapStrings f).toSql = .ok sql' →
        ∃ ts, Token.read? sql = some ts ∧
          Token.read? sql' = some (ts.map (Token.mapString f)) := by
  have hboth := q.alike_toSql (f := f) hq
  refine ⟨hboth.isOk_iff, ?_⟩
  intro sql sql' hsql hsql'
  obtain ⟨sql'', hsql'', ts, htokens, -⟩ := hboth.of_ok hsql
  obtain rfl : sql'' = sql' := Except.ok.inj (hsql''.symm.trans hsql')
  exact ⟨ts, htokens⟩

/-- The condition `name = 'it\'s'` and one with an empty literal. -/
theorem Query.tokens_toSql_quote_in_literal :
    let q : Query :=
      { wheres :=
          [{ first := .value (.identifier ⟨"name"⟩), operator := some .eq,
             second := some (.value (.string "it's")) }] }
    q.isRawFree ∧
      ∃ ts, Token.read? "SELECT * WHERE `name` = 'it\\'s'" = some ts ∧
        Token.read? "SELECT * WHERE `name` = ''" =
          some (ts.map (Token.mapString fun _ => "")) := by
  intro q
  have hfree : q.isRawFree := rfl
  exact ⟨hfree, (Query.tokens_toSql_mapStrings hfree fun _ => "").2 _ _ rfl rfl⟩

/-! ### Clauses outside brackets -/

/-- **A statement shows exactly its own clauses in their order**: the brackets in the text of a
query without raw SQL are balanced, and the head words outside them are those of the clauses of
the query. -/
theorem Query.outline_toSql {q : Query} (hq : q.isRawFree) {sql : String}
    (hsql : q.toSql = .ok sql) :
    ∃ ls, Lexeme.read? sql = some ls ∧ Lexeme.Balanced ls ∧
      Lexeme.outline? ls = some (q.clauses.flatMap Clause.words) := by
  obtain ⟨_, -, ts, ⟨hread, -⟩, hscan⟩ := (q.alike_toSql (f := id) hq).of_ok hsql
  refine ⟨Lexeme.ofTokens [] ts, ?_, Lexeme.balanced_of_scan hscan,
    Lexeme.outline?_eq_some hscan⟩
  rw [Lexeme.read?, hread]
  rfl

/-- A sub-query in a column, with a WHERE clause of its own, a join, a union, and a format. -/
theorem Query.outline_toSql_nested :
    let inner : Query := { wheres := [{ first := .value (.identifier ⟨"a"⟩) }] }
    let q : Query :=
      { columns := [{ source := some (.query inner) }]
        fromClause := some { table := some (.name ⟨"t"⟩) }
        joins := [{ table := some (.query inner), kind := some .left, usingColumns := [⟨"k"⟩] }]
        limit := some { count := 5 }
        unions := [{}]
        format := some .json }
    let sql := "SELECT (SELECT * WHERE `a`) FROM `t` LEFT JOIN (SELECT * WHERE `a`) USING `k` " ++
      "LIMIT 5 UNION ALL SELECT * FORMAT JSON"
    q.isRawFree ∧ q.toSql = .ok sql ∧
      ∃ ls, Lexeme.read? sql = some ls ∧ Lexeme.Balanced ls ∧
        Lexeme.outline? ls = some
          ["SELECT", "FROM", "LEFT", "JOIN", "LIMIT", "UNION", "ALL", "SELECT", "FORMAT"] := by
  intro inner q sql
  have hfree : q.isRawFree := rfl
  have hsql : q.toSql = .ok sql := rfl
  exact ⟨hfree, hsql, Query.outline_toSql hfree hsql⟩

end FluentSql
