import FluentSql.Proofs.Rendered
import FluentSql.Proofs.Surface
import FluentSql.Proofs.TermReading
import FluentSql.Query.Table

/-! # Table references in FROM and in joins

A FROM clause and a join are told what to read by the same calls (`ReferenceCall`), and show it as a
table with an alias behind it.  They differ in what they make of a name that carries an alias: a
join takes it apart when the name is set, and a FROM clause leaves it to the text of the name.  So a
join refers to what a FROM clause refers to after the calls in which each such name is taken apart
(`Reference.join_foldl`, `Join.toSql_ofCalls`), and both show the same reference when no table name
carries an alias.  Otherwise the FROM clause can show two aliases for one table
(`not_sameReference_alias_after_inline_alias`). -/

namespace FluentSql

/-! ### Calls that set the table reference -/

/-- A call that sets what a clause reads, or its alias. -/
inductive ReferenceCall where
  | table (name : Identifier)
  | rename (aliasName : Identifier)
  | query (q : Query)

namespace ReferenceCall

/-- The call, where a name with an alias is given as a name and then as an alias. -/
def split : ReferenceCall → List ReferenceCall
  | table name =>
      match name.splitAlias? with
      | some (name, aliasName) => [table name, rename aliasName]
      | none => [table name]
  | c => [c]

/-- Names carry no alias, and in the text of a query all brackets match. -/
def IsPlain : ReferenceCall → Prop
  | table name => name.splitAlias? = none
  | rename aliasName => aliasName.splitAlias? = none
  | query q => ∀ sql, q.toSql = .ok sql → ∃ ms, surface? sql = some ms

end ReferenceCall

/-- The FROM clause after a call. -/
def FromClause.refer (f : FromClause) : ReferenceCall → FromClause
  | .table name => f.setTable (.name name)
  | .rename aliasName => f.setAlias aliasName
  | .query q => f.setQuery q

/-- The join after a call. -/
def Join.refer (j : Join) : ReferenceCall → Join
  | .table name => j.setTable (.name name)
  | .rename aliasName => j.setAlias aliasName
  | .query q => j.setQuery q

/-- The FROM clause that calls make. -/
def FromClause.ofCalls (calls : List ReferenceCall) : FromClause := calls.foldl refer {}

/-- The join that calls make, on common columns. -/
def Join.ofCalls (calls : List ReferenceCall) (columns : List Identifier) : Join :=
  (calls.foldl refer {}).setUsing columns

/-! ### References -/

/-- What both clauses hold of a table reference. -/
structure Reference where
  table : Option TableSource := none
  aliasName : Option Identifier := none

namespace Reference

/-- The FROM clause with this reference. -/
def fromClause (r : Reference) : FromClause := { table := r.table, aliasName := r.aliasName }

/-- The join with this reference. -/
def join (r : Reference) : Join := { table := r.table, aliasName := r.aliasName }

/-- The reference after a call that takes a name as it is. -/
def refer (r : Reference) : ReferenceCall → Reference
  | .table name => { r with table := some (.name name) }
  | .rename aliasName => { r with aliasName := some aliasName }
  | .query q =>
      { table := some (.query q)
        aliasName := r.aliasName.or (r.table.bind TableSource.identifier?) }

theorem fromClause_refer (r : Reference) (c : ReferenceCall) :
    r.fromClause.refer c = (r.refer c).fromClause := by
  cases c <;> rfl

/-- A join takes a name with an alias apart. -/
theorem join_refer (r : Reference) (c : ReferenceCall) :
    r.join.refer c = (c.split.foldl refer r).join := by
  cases c with
  | table name =>
      rw [Join.refer, Join.setTable, ReferenceCall.split, TableSource.identifier?, Option.bind_some]
      cases name.splitAlias? <;> rfl
  | _ => rfl

theorem fromClause_foldl (calls : List ReferenceCall) : ∀ r : Reference,
    calls.foldl FromClause.refer r.fromClause = (calls.foldl refer r).fromClause := by
  induction calls with
  | nil => exact fun r => rfl
  | cons c calls ih =>
      intro r
      rw [List.foldl_cons, List.foldl_cons, fromClause_refer, ih]

theorem join_foldl (calls : List ReferenceCall) : ∀ r : Reference,
    calls.foldl Join.refer r.join =
      ((calls.flatMap ReferenceCall.split).foldl refer r).join := by
  induction calls with
  | nil => exact fun r => rfl
  | cons c calls ih =>
      intro r
      rw [List.foldl_cons, List.flatMap_cons, List.foldl_append, join_refer, ih]

end Reference

/-- The reference that calls make when names are taken as they are. -/
def referenceOf (calls : List ReferenceCall) : Reference := calls.foldl Reference.refer {}

theorem FromClause.ofCalls_eq (calls : List ReferenceCall) :
    ofCalls calls = (referenceOf calls).fromClause :=
  Reference.fromClause_foldl calls {}

theorem Join.ofCalls_eq (calls : List ReferenceCall) (columns : List Identifier) :
    ofCalls calls columns =
      { (referenceOf (calls.flatMap ReferenceCall.split)).join with usingColumns := columns } :=
  congrArg (setUsing · columns) (Reference.join_foldl calls {})

open Text (Solid)

namespace Identifier

theorem solid_quoteName (cs : List Char) : Solid (quoteName cs) := by
  unfold quoteName
  split
  · rename_i h
    subst h
    decide
  · have hquote : Solid [backtick] := by decide
    have hquoted := hquote.append hquote (doubleBackticks cs)
    rwa [List.append_assoc] at hquoted

theorem solid_quotePart (cs : List Char) : Solid (quotePart cs) := by
  unfold quotePart
  split
  · exact (solid_quoteName _).append (solid_quoteName _) _
  · exact solid_quoteName cs

theorem solid_quoted (id : Identifier) : Solid id.quoted.toList := by
  rw [quoted, String.toList_ofList, quoteChars]
  split
  · exact solid_quotePart _
  · refine Text.solid_intercalate (by simp [pieces]) ?_
    simp only [List.forall_mem_map]
    exact fun part _ => solid_quotePart _

theorem solid_quotedList {ids : List Identifier} (h : ids ≠ []) :
    Solid (quotedList ids).toList := by
  rw [quotedList, Text.commaList, String.toList_intercalate]
  refine Text.solid_intercalate (by simpa using h) ?_
  simp only [List.forall_mem_map]
  exact fun id _ => id.solid_quoted

end Identifier

/-! ### The texts of the clauses -/

namespace Reference

variable {r : Reference} {columns : List Identifier} {sql : String}

/-- A table text with an alias behind it. -/
def text (table : String) : Option Identifier → String
  | some aliasName => table ++ " AS " ++ aliasName.quoted
  | none => table

/-- The table is no piece of SQL that is written as it is. -/
def IsRawFree (r : Reference) : Prop := ∀ sql, r.table ≠ some (.raw sql)

theorem isRawFree_refer (h : r.IsRawFree) (c : ReferenceCall) : (r.refer c).IsRawFree := by
  cases c with
  | rename aliasName => exact h
  | _ => simp [IsRawFree, refer]

theorem isRawFree_foldl (calls : List ReferenceCall) : ∀ {r : Reference}, r.IsRawFree →
    (calls.foldl refer r).IsRawFree := by
  induction calls with
  | nil => exact fun h => h
  | cons c calls ih => exact fun h => ih (isRawFree_refer h c)

theorem solid_table (h : r.IsRawFree) (hsql : TableSource.toSqlOrMissing r.table = .ok sql) :
    Solid sql.toList := by
  obtain ⟨_ | (id | raw | q), aliasName⟩ := r
  · cases hsql
  · obtain rfl := Except.ok.inj hsql
    exact id.solid_quoted
  · exact absurd rfl (h raw)
  · simp only [TableSource.toSqlOrMissing, TableSource.toSql, bind_eq_ok] at hsql
    obtain ⟨inner, -, hinner⟩ := hsql
    obtain rfl := Except.ok.inj hinner
    have hopen : Solid "(".toList := by decide
    have hclose : Solid ")".toList := by decide
    exact Text.solid_append hopen inner hclose

theorem toSql_fromClause_eq_ok :
    r.fromClause.toSql = .ok sql ↔
      ∃ table, TableSource.toSqlOrMissing r.table = .ok table ∧
        sql = "FROM " ++ text table r.aliasName := by
  rw [fromClause, FromClause.toSql, bind_eq_ok]
  refine exists_congr fun table => and_congr_right fun _ => ?_
  have htext : fromText table r.aliasName false = "FROM " ++ text table r.aliasName := by
    cases r.aliasName <;> simp [fromText, text, String.append_assoc]
  rw [htext]
  exact ⟨fun h => (Except.ok.inj h).symm, fun h => congrArg _ h.symm⟩

/-- The alias as a piece of a join. -/
def aliasText (aliasName : Option Identifier) : String :=
  (aliasName.map fun a => "AS " ++ a.quoted).getD ""

theorem solid_aliasText (aliasName : Option Identifier) :
    aliasText aliasName = "" ∨ Solid (aliasText aliasName).toList := by
  cases aliasName with
  | none => exact .inl rfl
  | some a =>
      have has : Solid "AS".toList := by decide
      exact .inr (Text.solid_append has " " a.solid_quoted)

theorem text_eq (table : String) (aliasName : Option Identifier) :
    text table aliasName = table ++ Text.spaced (aliasText aliasName) := by
  cases aliasName with
  | none => simp [text, aliasText, Text.spaced]
  | some a =>
      have has : " " ++ ("AS " ++ a.quoted) = " AS " ++ a.quoted := by
        rw [← String.append_assoc]
        rfl
      simp [text, aliasText, Text.spaced, has, String.append_assoc]

/-- A join shows its table, its alias and its keys. -/
theorem joinText_eq {table keys : String} (htable : Solid table.toList) (hkeys : Solid keys.toList)
    (aliasName : Option Identifier) :
    joinText false none none table aliasName keys =
      "JOIN " ++ text table aliasName ++ " " ++ keys := by
  have hne {pieces : List String} (h : "JOIN" ∈ pieces) : Text.fragments pieces ≠ "" :=
    Text.fragments_ne_empty h (by decide)
  have hjoin : Text.fragments ["", "", "", "JOIN"] = "JOIN" := rfl
  calc joinText false none none table aliasName keys
      = Text.fragments (["", "", "", "JOIN"] ++ [table] ++ [aliasText aliasName] ++ [keys]) := rfl
    _ = "JOIN" ++ Text.spaced table ++ Text.spaced (aliasText aliasName) ++ Text.spaced keys := by
        rw [Text.fragments_concat (hne (by simp)) (.inr hkeys),
          Text.fragments_concat (hne (by simp)) (solid_aliasText aliasName),
          Text.fragments_concat (hne (by simp)) (.inr htable), hjoin]
    _ = "JOIN " ++ text table aliasName ++ " " ++ keys := by
        rw [Text.spaced_of_solid htable, Text.spaced_of_solid hkeys, text_eq]
        simp only [← String.append_assoc]
        rfl

/-- A join on common columns shows them behind the reference. -/
theorem joinText_using {table : String} (htable : Solid table.toList)
    (aliasName : Option Identifier) (hcolumns : columns ≠ []) :
    joinText false none none table aliasName (joinKeys columns []) =
      "JOIN " ++ text table aliasName ++ " USING " ++ Identifier.quotedList columns := by
  have husing : Solid "USING".toList := by decide
  have hkeys : Solid ("USING" ++ " " ++ Identifier.quotedList columns).toList :=
    Text.solid_append husing " " (Identifier.solid_quotedList hcolumns)
  rw [joinKeys, if_pos hcolumns]
  refine (joinText_eq htable hkeys aliasName).trans ?_
  rw [← String.append_assoc]
  refine congrArg (· ++ Identifier.quotedList columns) ?_
  rw [String.append_assoc]
  rfl

theorem toSql_join_eq_ok (h : r.IsRawFree) (hcolumns : columns ≠ []) :
    ({ r.join with usingColumns := columns } : Join).toSql = .ok sql ↔
      ∃ table, TableSource.toSqlOrMissing r.table = .ok table ∧
        sql = "JOIN " ++ text table r.aliasName ++ " USING " ++
          Identifier.quotedList columns := by
  have hcheck : Join.check r.table.isSome (columns ≠ []) (¬ ([] : List Predicate).isEmpty) =
      if r.table.isSome then .ok () else .error (.wrongJoin [.table]) := by
    cases r.table <;> simp [Join.check, hcolumns]
  have hjoin {table : String} (htable : TableSource.toSqlOrMissing r.table = .ok table) :=
    joinText_using (solid_table h htable) r.aliasName hcolumns
  have hsome {table : String} (htable : TableSource.toSqlOrMissing r.table = .ok table) :
      r.table.isSome := by
    cases hr : r.table with
    | none => rw [hr] at htable; cases htable
    | some t => rfl
  rw [join, Join.toSql, hcheck]
  simp only [bind_eq_ok]
  constructor
  · rintro ⟨_, -, table, htable, _, hconditions, hsql⟩
    obtain rfl := Except.ok.inj hconditions
    exact ⟨table, htable, (Except.ok.inj hsql).symm.trans (hjoin htable)⟩
  · rintro ⟨table, htable, rfl⟩
    exact ⟨(), if_pos (hsome htable), table, htable, [], rfl, congrArg _ (hjoin htable)⟩

end Reference

/-! ### Aliases that show -/

/-- The text introduces at most one alias outside brackets and quotes. -/
def OneAlias (sql : String) : Prop :=
  ∃ ms, surface? sql = some ms ∧ ms.count (.outer (.word "AS")) ≤ 1

/-- The text introduces no alias outside brackets and quotes. -/
def NoAlias (sql : String) : Prop :=
  ∃ ms, surface? sql = some ms ∧ ms.count (.outer (.word "AS")) = 0

theorem Lexeme.mark_of_isUnseen {ls : List Lexeme} (h : ∀ l ∈ ls, l.isUnseen) :
    mark [] ls = some ([], ls.map Mark.outer) := by
  induction ls with
  | nil => rfl
  | cons l ls ih =>
      have hl := h l List.mem_cons_self
      have hnest : nest [] l = some [] := by
        cases l <;> simp_all [nest, isUnseen]
      rw [mark, hnest, Option.bind_some, ih fun m hm => h m (List.mem_cons_of_mem l hm)]
      rfl

/-- The text of a name without alias introduces none. -/
theorem Identifier.noAlias_quoted {id : Identifier} (h : id.splitAlias? = none) :
    NoAlias id.quoted := by
  obtain ⟨p, ps, -, hread⟩ := exists_read?_quoted h
  have hpart (q : NamePart) : q.lexeme.isUnseen ∧ q.lexeme ≠ .word "AS" := by
    cases q <;> exact ⟨rfl, nofun⟩
  have hall : ∀ l ∈ p.lexeme :: NamePart.dotted ps, l.isUnseen ∧ l ≠ .word "AS" := by
    intro l hl
    rcases List.mem_cons.mp hl with rfl | hl
    · exact hpart p
    · obtain ⟨q, -, hq⟩ := List.mem_flatMap.mp hl
      rcases List.mem_pair.mp hq with rfl | rfl
      · exact ⟨rfl, nofun⟩
      · exact hpart q
  refine ⟨_, surface?_eq_some.mpr ⟨_, hread, Lexeme.mark_of_isUnseen fun l hl => (hall l hl).1⟩, ?_⟩
  rw [List.count_eq_zero, List.mem_map]
  rintro ⟨l, hl, heq⟩
  exact (hall l hl).2 (Mark.mk.inj heq).1

/-- What stands in parentheses introduces no alias outside them. -/
theorem noAlias_parenthesized {sql : String} {ms : List Mark} (h : surface? sql = some ms) :
    NoAlias (parenthesized sql) := by
  refine ⟨_, surface?_parenthesized h, ?_⟩
  rw [List.count_eq_zero]
  simp [Mark.outer, Mark.inner]

theorem Reference.oneAlias_text {table : String} (htable : NoAlias table)
    {aliasName : Option Identifier} (h : ∀ a ∈ aliasName, a.splitAlias? = none) :
    OneAlias (text table aliasName) := by
  obtain ⟨ms, hms, hcount⟩ := htable
  cases aliasName with
  | none => exact ⟨ms, hms, hcount.trans_le (Nat.zero_le 1)⟩
  | some a =>
      obtain ⟨ns, hns, hcount'⟩ := Identifier.noAlias_quoted (h a rfl)
      have has : Lexeme.mark [] (Lexeme.ofText " AS ") = some ([], [.outer (.word "AS")]) := by
        decide
      refine ⟨_, surface?_glue " AS " (by decide) (by decide) (by decide) has hms hns, ?_⟩
      simp [hcount, hcount']

namespace Reference

/-- Neither the name nor the alias carries an alias, and in the text of a query all brackets
match. -/
structure IsPlain (r : Reference) : Prop where
  name : ∀ id, r.table = some (.name id) → id.splitAlias? = none
  query : ∀ q sql, r.table = some (.query q) → q.toSql = .ok sql → ∃ ms, surface? sql = some ms
  aliasName : ∀ a ∈ r.aliasName, a.splitAlias? = none

theorem isPlain_refer {r : Reference} (h : r.IsPlain) {c : ReferenceCall} (hc : c.IsPlain) :
    (r.refer c).IsPlain := by
  cases c with
  | table name => exact ⟨fun id hid => by cases hid; exact hc, nofun, h.aliasName⟩
  | rename aliasName => exact ⟨h.name, h.query, fun a ha => by cases ha; exact hc⟩
  | query q =>
      refine ⟨nofun, fun q' sql hq' hsql => by cases hq'; exact hc sql hsql, ?_⟩
      intro a ha
      rcases Option.or_eq_some_iff.mp ha with ha | ⟨-, ha⟩
      · exact h.aliasName a ha
      · obtain ⟨t, ht, hid⟩ := Option.bind_eq_some_iff.mp ha
        cases t with
        | name id => cases hid; exact h.name a ht
        | _ => cases hid

theorem isPlain_foldl {calls : List ReferenceCall} (hcalls : ∀ c ∈ calls, c.IsPlain) :
    ∀ {r : Reference}, r.IsPlain → (calls.foldl refer r).IsPlain := by
  induction calls with
  | nil => exact fun h => h
  | cons c calls ih =>
      exact fun h => ih (fun d hd => hcalls d (List.mem_cons_of_mem c hd))
        (isPlain_refer h (hcalls c List.mem_cons_self))

theorem noAlias_table {r : Reference} (h : r.IsPlain) (hraw : r.IsRawFree) {table : String}
    (htable : TableSource.toSqlOrMissing r.table = .ok table) : NoAlias table := by
  obtain ⟨_ | (id | raw | q), aliasName⟩ := r
  · cases htable
  · obtain rfl := Except.ok.inj htable
    exact Identifier.noAlias_quoted (h.name id rfl)
  · exact absurd rfl (hraw raw)
  · simp only [TableSource.toSqlOrMissing, TableSource.toSql, bind_eq_ok] at htable
    obtain ⟨inner, hsql, hinner⟩ := htable
    obtain rfl := Except.ok.inj hinner
    obtain ⟨ms, hms⟩ := h.query q inner rfl hsql
    exact noAlias_parenthesized hms

end Reference

/-! ### The references of both clauses -/

theorem isRawFree_referenceOf (calls : List ReferenceCall) : (referenceOf calls).IsRawFree :=
  Reference.isRawFree_foldl calls (r := {}) (fun _ => nofun)

theorem isPlain_referenceOf {calls : List ReferenceCall} (h : ∀ c ∈ calls, c.IsPlain) :
    (referenceOf calls).IsPlain :=
  Reference.isPlain_foldl h (r := {}) ⟨nofun, nofun, nofun⟩

/-- What was called decides whether there is a table with a text, and not the names. -/
theorem exists_table_refer {r r' : Reference} (h : (∃ sql, TableSource.toSqlOrMissing r.table =
      .ok sql) ↔ ∃ sql, TableSource.toSqlOrMissing r'.table = .ok sql) (c : ReferenceCall) :
    (∃ sql, TableSource.toSqlOrMissing (r.refer c).table = .ok sql) ↔
      ∃ sql, TableSource.toSqlOrMissing (c.split.foldl Reference.refer r').table = .ok sql := by
  cases c with
  | table name =>
      rw [ReferenceCall.split]
      split <;> exact iff_of_true ⟨_, rfl⟩ ⟨_, rfl⟩
  | rename aliasName => exact h
  | query q => exact Iff.rfl

theorem exists_table_foldl (calls : List ReferenceCall) : ∀ r r' : Reference,
    ((∃ sql, TableSource.toSqlOrMissing r.table = .ok sql) ↔
      ∃ sql, TableSource.toSqlOrMissing r'.table = .ok sql) →
    ((∃ sql, TableSource.toSqlOrMissing (calls.foldl Reference.refer r).table = .ok sql) ↔
      ∃ sql, TableSource.toSqlOrMissing
        ((calls.flatMap ReferenceCall.split).foldl Reference.refer r').table = .ok sql) := by
  induction calls with
  | nil => exact fun r r' h => h
  | cons c calls ih =>
      intro r r' h
      rw [List.foldl_cons, List.flatMap_cons, List.foldl_append]
      exact ih _ _ (exists_table_refer h c)

theorem flatMap_split_eq_self {calls : List ReferenceCall}
    (h : ∀ name, .table name ∈ calls → name.splitAlias? = none) :
    calls.flatMap ReferenceCall.split = calls := by
  have hsplit : calls.flatMap ReferenceCall.split = calls.flatMap fun c => [c] := by
    refine List.flatMap_congr fun c hc => ?_
    cases c with
    | table name => rw [ReferenceCall.split, h name hc]
    | _ => rfl
  rw [hsplit, List.flatMap_singleton']

/-- **A join refers to what a FROM clause refers to once names with an alias are taken apart.**
Of the same calls both clauses have a text or neither has.  The join shows the reference that the
FROM clause shows after the calls in which each table name with an alias is given as a name and then
as an alias.  This reference introduces at most one alias if no name in those calls carries a
further one.  So the texts of both clauses show the same reference whenever no table name carries an
alias. -/
theorem Join.toSql_ofCalls (calls : List ReferenceCall) {columns : List Identifier}
    (hcolumns : columns ≠ []) :
    ((∃ sql, (ofCalls calls columns).toSql = .ok sql) ↔
        ∃ sql, (FromClause.ofCalls calls).toSql = .ok sql) ∧
      (∀ sql, (ofCalls calls columns).toSql = .ok sql → ∃ ref,
        sql = "JOIN " ++ ref ++ " USING " ++ Identifier.quotedList columns ∧
        (FromClause.ofCalls (calls.flatMap ReferenceCall.split)).toSql = .ok ("FROM " ++ ref) ∧
        ((∀ c ∈ calls.flatMap ReferenceCall.split, c.IsPlain) → OneAlias ref)) ∧
      ((∀ name, .table name ∈ calls → name.splitAlias? = none) → ∀ ref,
        (FromClause.ofCalls calls).toSql = .ok ("FROM " ++ ref) ↔
          (ofCalls calls columns).toSql =
            .ok ("JOIN " ++ ref ++ " USING " ++ Identifier.quotedList columns)) := by
  have hraw := isRawFree_referenceOf (calls.flatMap ReferenceCall.split)
  rw [ofCalls_eq, FromClause.ofCalls_eq, FromClause.ofCalls_eq]
  simp only [Reference.toSql_fromClause_eq_ok, Reference.toSql_join_eq_ok hraw hcolumns]
  refine ⟨?_, ?_, ?_⟩
  · have htable := exists_table_foldl calls {} {} Iff.rfl
    constructor
    · rintro ⟨-, table, hsql, -⟩
      obtain ⟨table', hsql'⟩ := htable.mpr ⟨table, hsql⟩
      exact ⟨_, table', hsql', rfl⟩
    · rintro ⟨-, table, hsql, -⟩
      obtain ⟨table', hsql'⟩ := htable.mp ⟨table, hsql⟩
      exact ⟨_, table', hsql', rfl⟩
  · rintro sql ⟨table, htable, rfl⟩
    refine ⟨_, rfl, ⟨table, htable, rfl⟩, fun hplain => ?_⟩
    have hreference := isPlain_referenceOf hplain
    exact Reference.oneAlias_text (Reference.noAlias_table hreference hraw htable)
      hreference.aliasName
  · intro hnames ref
    rw [flatMap_split_eq_self hnames]
    refine exists_congr fun table => and_congr_right fun _ => ?_
    simp only [String.append_left_inj, String.append_right_inj]

/-- A dotted name, which becomes the alias of the query that is read in its place, and is renamed
then. -/
theorem sameReference_query_named_and_renamed :
    let calls : List ReferenceCall := [.table ⟨"db.t"⟩, .query {}, .rename ⟨"x"⟩]
    (FromClause.ofCalls calls).toSql = .ok "FROM (SELECT *) AS `x`" ∧
      (Join.ofCalls calls [⟨"k"⟩]).toSql = .ok "JOIN (SELECT *) AS `x` USING `k`" ∧
      OneAlias "(SELECT *) AS `x`" := by
  intro calls
  have hplain : ∀ c ∈ calls, c.IsPlain := by
    simp only [calls, List.forall_mem_cons, ReferenceCall.IsPlain]
    refine ⟨rfl, fun sql hsql => ?_, rfl, by simp⟩
    obtain rfl : "SELECT *" = sql := Except.ok.inj hsql
    exact ⟨_, rfl⟩
  have hnames : ∀ name, .table name ∈ calls → name.splitAlias? = none := fun name h => hplain _ h
  obtain ⟨-, hone, hsame⟩ := Join.toSql_ofCalls calls (List.cons_ne_nil (⟨"k"⟩ : Identifier) [])
  have hfrom : (FromClause.ofCalls calls).toSql = .ok "FROM (SELECT *) AS `x`" := rfl
  have hjoin := (hsame hnames "(SELECT *) AS `x`").mp hfrom
  refine ⟨hfrom, hjoin, ?_⟩
  obtain ⟨ref, htext, -, hplainRef⟩ := hone _ hjoin
  have href : ref = "(SELECT *) AS `x`" := by
    simpa only [String.append_left_inj, String.append_right_inj] using htext.symm
  rw [← href]
  exact hplainRef (by rw [flatMap_split_eq_self hnames]; exact hplain)

/-- A FROM clause keeps the alias that a name carries and shows a second one behind it.  A join
replaces it. -/
theorem not_sameReference_alias_after_inline_alias :
    let calls : List ReferenceCall := [.table ⟨"x as y"⟩, .rename ⟨"b"⟩]
    (FromClause.ofCalls calls).toSql = .ok "FROM `x` AS `y` AS `b`" ∧
      (Join.ofCalls calls [⟨"k"⟩]).toSql = .ok "JOIN `x` AS `b` USING `k`" ∧
      ¬ OneAlias "`x` AS `y` AS `b`" := by
  refine ⟨rfl, rfl, ?_⟩
  rintro ⟨ms, hms, hcount⟩
  obtain rfl := Option.some.inj hms
  revert hcount
  decide

end FluentSql
