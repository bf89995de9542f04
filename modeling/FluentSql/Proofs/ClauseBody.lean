import FluentSql.Proofs.Deletion
import FluentSql.Proofs.Grouping

/-! # Keywords and what stands behind them

A clause is left out if its body is empty, but a body can be blank without being empty, and the
clauses of joins, orders and LIMIT BY are written whatever their bodies are.  So the keywords of a
query are followed by something exactly if the parts behind them are not blank
(`Query.keywordsFollowed_iff`), which can be told from the query: only raw pieces of SQL and columns
that select nothing are blank (`Column.isBlank`, `Predicate.isBlank`). -/

namespace FluentSql

/-! ### Blank texts -/

namespace Text

variable {s t : String} {pieces : List String}

instance (s : String) : Decidable (IsBlank s) := List.decidableBAll _ _

theorem isBlank_empty : IsBlank "" := by decide

theorem IsBlank.mono (hs : IsBlank s) (h : t.toList <:+: s.toList) : IsBlank t := fun c hc =>
  hs c (h.subset hc)

theorem not_isBlank_of_mem {c : Char} (hc : c ∈ s.toList) (hblank : ¬ isBlank c) : ¬ IsBlank s :=
  fun hs => hblank (hs c hc)

@[simp]
theorem isBlank_append_iff : IsBlank (s ++ t) ↔ IsBlank s ∧ IsBlank t := by
  rw [IsBlank, String.toList_append, List.forall_mem_append]
  rfl

/-- Only blanks are put between words. -/
theorem isBlank_words_iff : IsBlank (words pieces) ↔ ∀ s ∈ pieces, IsBlank s := by
  refine ⟨fun h s hs => h.mono (isInfix_words hs), fun h => ?_⟩
  have hall : ∀ ss : List String, (∀ s ∈ ss, IsBlank s) → IsBlank (" ".intercalate ss) := by
    intro ss hss
    induction ss with
    | nil => exact isBlank_empty
    | cons s ss ih =>
        obtain ⟨hs, hss⟩ := List.forall_mem_cons.mp hss
        cases ss with
        | nil => rwa [String.intercalate_singleton]
        | cons u us =>
            rw [String.intercalate_cons_cons, isBlank_append_iff, isBlank_append_iff]
            exact ⟨⟨hs, by decide⟩, ih hss⟩
  exact hall _ fun s hs => h s (List.mem_of_mem_filter hs)

theorem not_isBlank_parenthesized (sql : String) : ¬ IsBlank (parenthesized sql) :=
  not_isBlank_of_mem (c := '(') (by simp [parenthesized]) (by decide)

theorem not_isBlank_of_isNumeric {c : Char} (h : isNumeric c) : ¬ isBlank c := by
  have hrange := toNat_of_isNumeric h
  simp only [isBlank, inRanges, blankRanges, List.any_cons, List.any_nil, Bool.or_eq_true,
    Bool.and_eq_true, decide_eq_true_eq, Bool.false_eq_true, or_false]
  omega

theorem not_isBlank_number (hne : s ≠ "") (h : ∀ c ∈ s.toList, isNumeric c) : ¬ IsBlank s := by
  obtain ⟨c, hc⟩ := List.exists_mem_of_ne_nil _ (mt String.toList_eq_nil_iff.mp hne)
  exact not_isBlank_of_mem hc (not_isBlank_of_isNumeric (h c hc))

end Text

open Text (IsBlank isBlank_append_iff not_isBlank_of_mem)

/-! ### Values and columns -/

theorem Identifier.not_isBlank_quoted (id : Identifier) : ¬ IsBlank id.quoted := by
  obtain ⟨c, rest, hc, hstart⟩ := exists_quoteChars_eq_cons id.raw.toList
  refine not_isBlank_of_mem (c := c) ?_ ?_
  · rw [quoted, String.toList_ofList, hc]
    exact List.mem_cons_self
  · rcases hstart with rfl | rfl <;> decide

theorem Binary64.not_isBlank_sqlText (x : Binary64) : ¬ IsBlank x.sqlText := by
  rcases x.sqlText_cases with h | h | h | h
  · rw [h]; decide
  · rw [h]; decide
  · rw [h]; decide
  · exact Text.not_isBlank_number x.sqlText_ne_empty h

/-- Whether the value is a piece of SQL with no characters other than blanks. -/
def Value.isBlank : Value → Bool
  | raw sql => IsBlank sql
  | _ => false

theorem Value.isBlank_sql_iff (v : Value) : IsBlank v.sql ↔ v.isBlank := by
  cases v with
  | null => decide
  | bool b => cases b <;> decide
  | int n =>
      exact iff_of_false (Text.not_isBlank_number (intText_ne_empty n.toInt) fun _ =>
        isNumeric_of_mem_intText) Bool.false_ne_true
  | uint n =>
      exact iff_of_false (Text.not_isBlank_number (natText_ne_empty n.toNat) fun _ =>
        isNumeric_of_mem_natText) Bool.false_ne_true
  | float x => exact iff_of_false x.not_isBlank_sqlText Bool.false_ne_true
  | string s =>
      have hquote : '\'' ∈ (Text.quote s).toList := by rw [Text.toList_quote]; simp
      exact iff_of_false (not_isBlank_of_mem hquote (by decide)) Bool.false_ne_true
  | identifier id => exact iff_of_false id.not_isBlank_quoted Bool.false_ne_true
  | raw sql => simp [Value.sql, isBlank]
  | array items =>
      have hbracket : '[' ∈ (Value.sql (.array items)).toList := by simp [sql]
      exact iff_of_false (not_isBlank_of_mem hbracket (by decide)) Bool.false_ne_true

theorem ColumnFunction.not_isBlank_apply (previous : Option ColumnFunction) (inner : String)
    (f : ColumnFunction) : ¬ IsBlank (f.apply previous inner) := by
  have hround : ¬ IsBlank ")" := by decide
  have hplus : ¬ IsBlank " + " := by decide
  have htimes : ¬ IsBlank " * " := by decide
  have hproduct : ¬ IsBlank ") * " := by decide
  have hdistinct : ¬ IsBlank "DISTINCT " := by decide
  have hcount : ¬ IsBlank "count()" := by decide
  unfold apply
  split <;> try split
  all_goals simp [hround, hplus, htimes, hproduct, hdistinct, hcount]

theorem ColumnFunction.isBlank_applyAll_iff (fs : List ColumnFunction) :
    ∀ (previous : Option ColumnFunction) (inner : String),
      IsBlank (applyAll previous inner fs) ↔ IsBlank inner ∧ fs = [] := by
  induction fs with
  | nil => simp [applyAll]
  | cons f fs ih => simp [applyAll, ih, not_isBlank_apply]

/-- Whether the column has no characters other than blanks: a raw piece of SQL of blanks without
functions, also one without any characters under an alias. -/
def Column.isBlank : Column → Bool
  | ⟨none, _, []⟩ => true
  | ⟨some (.value v), none, []⟩ => v.isBlank
  | ⟨some (.value (.raw sql)), some _, []⟩ => sql = ""
  | _ => false

theorem isBlank_aliased_iff (sql : String) (aliasName : Option Identifier) :
    IsBlank (aliased sql aliasName) ↔ sql = "" ∨ IsBlank sql ∧ aliasName = none := by
  have has : ¬ IsBlank " AS " := by decide
  cases aliasName with
  | none =>
      have hempty : sql = "" → IsBlank sql := by rintro rfl; exact Text.isBlank_empty
      simpa [aliased] using hempty
  | some a => by_cases h : sql = "" <;> simp [aliased, h, has, Text.isBlank_empty]

theorem Column.isBlank_iff {c : Column} {sql : String} (h : c.toSql = .ok sql) :
    IsBlank sql ↔ c.isBlank := by
  obtain ⟨source, aliasName, functions⟩ := c
  rw [toSql_eq] at h
  obtain ⟨inner, hinner, rfl⟩ := map_eq_ok_iff.mp h
  rw [isBlank_aliased_iff, ColumnFunction.isBlank_applyAll_iff,
    ColumnFunction.applyAll_eq_empty_iff]
  cases functions with
  | cons f fs => exact iff_of_false (by simp) (by simp [isBlank])
  | nil =>
      cases source with
      | none =>
          obtain rfl := Except.ok.inj hinner
          exact iff_of_true (.inl ⟨rfl, rfl⟩) rfl
      | some source =>
          cases source with
          | value v =>
              obtain rfl := Except.ok.inj hinner
              have hempty : v.sql = "" → v.isBlank := by
                rw [Value.sql_eq_empty_iff]
                rintro rfl
                rfl
              rw [Value.isBlank_sql_iff]
              cases aliasName with
              | none => simpa [isBlank] using hempty
              | some a => cases v <;> simp [isBlank, Value.sql_eq_empty_iff]
          | column c =>
              obtain ⟨sql, -, htext⟩ := bind_eq_ok.mp hinner
              obtain rfl := Except.ok.inj htext
              refine iff_of_false ?_ Bool.false_ne_true
              simp [parenthesized_ne_empty, Text.not_isBlank_parenthesized]
          | query q =>
              obtain ⟨sql, -, htext⟩ := bind_eq_ok.mp hinner
              obtain rfl := Except.ok.inj htext
              refine iff_of_false ?_ Bool.false_ne_true
              simp [parenthesized_ne_empty, Text.not_isBlank_parenthesized]

/-! ### Conditions -/

mutual

/-- Whether the side has no characters other than blanks. -/
def Operand.isBlank : Operand → Bool
  | .value v => v.isBlank
  | .tuple _ => false
  | .column c => c.isBlank
  | .group _ => false
  | .predicate p => p.isBlank
  | .query _ => false

def Operand.isBlankOption : Option Operand → Bool
  | none => true
  | some o => o.isBlank

/-- Whether the condition has no characters other than blanks: it has no operator, and its sides
have none. -/
def Predicate.isBlank : Predicate → Bool
  | ⟨first, operator, second, _⟩ =>
      operator.isNone && first.isBlank && Operand.isBlankOption second

end

theorem isBlank_relation_iff {first second : String} {operator : Option Operator} :
    IsBlank (relation first operator second) ↔
      operator = none ∧ IsBlank first ∧ IsBlank second := by
  have htoken (op : Operator) : ¬ IsBlank op.token := by cases op <;> decide
  unfold relation
  split <;> simp [Text.isBlank_words_iff, htoken]

mutual

theorem Operand.isBlank_iff : ∀ (o : Operand) {sql : String}, o.toSql = .ok sql →
    (IsBlank sql ↔ o.isBlank)
  | .value v, sql, h => by
      rw [Operand.toSql] at h
      obtain rfl := Except.ok.inj h
      rw [Operand.isBlank, v.isBlank_sql_iff]
  | .tuple t, sql, h => by
      rw [Operand.toSql] at h
      obtain rfl := Except.ok.inj h
      rw [Operand.isBlank]
      exact iff_of_false (Text.not_isBlank_parenthesized _) Bool.false_ne_true
  | .column c, sql, h => by
      rw [Operand.toSql] at h
      rw [Operand.isBlank, Column.isBlank_iff h]
  | .group ps, sql, h => by
      rw [Operand.toSql] at h
      obtain ⟨conditions, -, hsql⟩ := bind_eq_ok.mp h
      obtain rfl := Except.ok.inj hsql
      rw [Operand.isBlank]
      exact iff_of_false (Text.not_isBlank_parenthesized _) Bool.false_ne_true
  | .predicate p, sql, h => by
      rw [Operand.toSql] at h
      rw [Operand.isBlank, Predicate.isBlank_iff p h]
  | .query q, sql, h => by
      rw [Operand.toSql] at h
      obtain ⟨inner, -, hsql⟩ := bind_eq_ok.mp h
      obtain rfl := Except.ok.inj hsql
      rw [Operand.isBlank]
      exact iff_of_false (Text.not_isBlank_parenthesized _) Bool.false_ne_true

theorem Operand.isBlankOption_iff : ∀ (o : Option Operand) {sql : String},
    Operand.toSqlOrNothing o = .ok sql → (IsBlank sql ↔ Operand.isBlankOption o)
  | none, sql, h => by
      rw [Operand.toSqlOrNothing] at h
      obtain rfl := Except.ok.inj h
      rw [Operand.isBlankOption]
      exact iff_of_true Text.isBlank_empty rfl
  | some o, sql, h => by
      rw [Operand.toSqlOrNothing] at h
      rw [Operand.isBlankOption, Operand.isBlank_iff o h]

theorem Predicate.isBlank_iff : ∀ (p : Predicate) {sql : String}, p.toSql = .ok sql →
    (IsBlank sql ↔ p.isBlank)
  | ⟨first, operator, second, _⟩, sql, h => by
      rw [Predicate.toSql] at h
      obtain ⟨text, hfirst, h⟩ := bind_eq_ok.mp h
      obtain ⟨text', hsecond, h⟩ := bind_eq_ok.mp h
      obtain rfl := Except.ok.inj h
      rw [isBlank_relation_iff, Operand.isBlank_iff first hfirst,
        Operand.isBlankOption_iff second hsecond, Predicate.isBlank, Bool.and_eq_true,
        Bool.and_eq_true, Option.isNone_iff_eq_none, and_assoc]

end

/-- Whether conditions have no characters other than blanks.  Two of them that are not silent are
linked by a conjunction. -/
def Predicate.areBlank (ps : List Predicate) : Bool :=
  match ps.filter (!·.isSilent) with
  | [] => true
  | [p] => p.isBlank
  | _ => false

theorem isBlank_linked_iff (conditions : List (Conjunction × String)) :
    IsBlank (linked conditions) ↔
      match conditions.filter (·.2 ≠ "") with
      | [] => True
      | [c] => IsBlank c.2
      | _ => False := by
  have htoken (c : Conjunction) : ¬ IsBlank c.token := by cases c <;> decide
  unfold linked
  split
  · rename_i hnil
    rw [hnil]
    exact iff_of_true Text.isBlank_empty trivial
  · rename_i c cs hcs
    rw [hcs]
    cases cs with
    | nil => simp [Text.isBlank_words_iff]
    | cons d ds => simp [Text.isBlank_words_iff, htoken]

theorem map_bind_eq {ε α β γ : Type} (x : Except ε α) (g : α → β) (k : β → Except ε γ) :
    x.map g >>= k = x >>= fun a => k (g a) := by
  cases x <;> rfl

/-- What is made of certain elements of a list can be told from what is made of the others. -/
theorem mapM_filter {ε α β : Type} {f : α → Except ε β} {p : α → Bool} {p' : β → Bool}
    (hkeep : ∀ x y, f x = .ok y → p x = p' y) (hdrop : ∀ x, ¬ p x → ∃ y, f x = .ok y)
    (xs : List α) : (xs.filter p).mapM f = (xs.mapM f).map (List.filter p') := by
  induction xs with
  | nil => rfl
  | cons x xs ih =>
      rw [List.mapM_cons]
      by_cases hx : p x
      · rw [List.filter_cons_of_pos hx, List.mapM_cons, ih]
        cases hy : f x with
        | error e => rfl
        | ok y =>
            have hy' : p' y := (hkeep x y hy).symm.trans hx
            cases xs.mapM f with
            | error e => rfl
            | ok ys => simp [bind, Except.bind, Except.map, pure, Except.pure, hy']
      · obtain ⟨y, hy⟩ := hdrop x hx
        have hy' : ¬ p' y := (hkeep x y hy) ▸ hx
        rw [List.filter_cons_of_neg hx, ih, hy]
        cases xs.mapM f with
        | error e => rfl
        | ok ys => simp [bind, Except.bind, Except.map, pure, Except.pure, hy']

/-- Silent conditions are left out of the text. -/
theorem Predicate.toSqlList_filter (ps : List Predicate) :
    toSqlList (ps.filter (!·.isSilent)) = (toSqlList ps).map (List.filter (·.2 ≠ "")) := by
  rw [toSqlList_eq_mapM, toSqlList_eq_mapM]
  refine mapM_filter (fun p c hc => ?_) (fun p hp => ?_) ps
  · obtain ⟨sql, hsql, rfl⟩ := map_eq_ok_iff.mp hc
    have hsilent : p.isSilent ↔ sql = "" := by
      rw [← toSql_eq_empty_iff, hsql, Except.ok.injEq]
    cases hp : p.isSilent <;> simp_all
  · have hsilent : p.toSql = .ok "" := (toSql_eq_empty_iff p).mpr (by simpa using hp)
    exact ⟨(p.conjunction, ""), by rw [hsilent]; rfl⟩

theorem Predicate.areBlank_iff {ps : List Predicate} {conditions : List (Conjunction × String)}
    (h : toSqlList ps = .ok conditions) : IsBlank (linked conditions) ↔ areBlank ps := by
  have hkept := toSqlList_filter ps
  rw [h, toSqlList_eq_mapM] at hkept
  have hall := mapM_eq_ok_iff.mp hkept
  rw [isBlank_linked_iff, areBlank]
  generalize conditions.filter (·.2 ≠ "") = cs at hall
  generalize ps.filter (!·.isSilent) = kept at hall
  cases hall with
  | nil => exact iff_of_true trivial rfl
  | cons hc hcs =>
      cases hcs with
      | nil =>
          obtain ⟨sql, hsql, rfl⟩ := map_eq_ok_iff.mp hc
          exact isBlank_iff _ hsql
      | cons => exact iff_of_false id Bool.false_ne_true

/-! ### Parts without text -/

theorem selectList_filter (columns : List String) :
    selectList (columns.filter (· ≠ "")) = selectList columns := by
  simp [selectList, List.filter_filter]

theorem linked_filter (conditions : List (Conjunction × String)) :
    linked (conditions.filter (·.2 ≠ "")) = linked conditions := by
  simp [linked, List.filter_filter]

theorem groupClause_map_filter (groups : Option (List String)) :
    groupClause (groups.map (List.filter (· ≠ ""))) = groupClause groups := by
  cases groups <;> simp [groupClause, List.filter_filter]

theorem Column.toSqlList_filter (cs : List Column) :
    toSqlList (cs.filter (!·.isEmpty)) = (toSqlList cs).map (List.filter (· ≠ "")) := by
  rw [toSqlList_eq_mapM, toSqlList_eq_mapM]
  refine mapM_filter (fun c sql hsql => ?_) (fun c hc => ?_) cs
  · have hempty : c.isEmpty ↔ sql = "" := by
      rw [← toSql_eq_empty_iff, hsql, Except.ok.injEq]
    cases hc : c.isEmpty <;> simp_all
  · exact ⟨"", (toSql_eq_empty_iff c).mpr (by simpa using hc)⟩

theorem Column.toSqlGroups_filter (cs : List Column) :
    toSqlGroups (cs.filter (!·.isEmpty)) =
      (toSqlGroups cs).map (Option.map (List.filter (· ≠ ""))) := by
  induction cs with
  | nil => rfl
  | cons c cs ih =>
      rw [toSqlGroups]
      by_cases hc : c.isEmpty
      · have hsql := (toSql_eq_empty_iff c).mpr hc
        rw [List.filter_cons_of_neg (by simpa using hc), ih, hsql]
        cases toSqlGroups cs with
        | error e => rfl
        | ok texts => cases texts <;> simp [bind, Except.bind, Except.map, pure, Except.pure]
      · rw [List.filter_cons_of_pos (by simpa using hc), toSqlGroups, ih]
        cases hsql : c.toSql with
        | error e => rfl
        | ok sql =>
            have hne : sql ≠ "" := by
              rintro rfl
              exact hc ((toSql_eq_empty_iff c).mp hsql)
            by_cases hstar : sql = "*"
            · simp [hstar, bind, Except.bind, Except.map, pure, Except.pure]
            · cases toSqlGroups cs with
              | error e => simp [hstar, bind, Except.bind, Except.map]
              | ok texts =>
                  cases texts <;>
                    simp [hstar, hne, bind, Except.bind, Except.map, pure, Except.pure]

namespace Query

/-- The query without the parts that have no text, in those clauses that leave them out. -/
def withoutSilent (q : Query) : Query :=
  { q with
    columns := q.columns.filter (!·.isEmpty)
    preWheres := q.preWheres.filter (!·.isSilent)
    wheres := q.wheres.filter (!·.isSilent)
    groups := q.groups.filter (!·.isEmpty)
    havings := q.havings.filter (!·.isSilent) }

theorem toSql_withoutSilent (q : Query) : q.withoutSilent.toSql = q.toSql := by
  obtain ⟨columns, fromClause, sample, arrayJoin, joins, preWheres, wheres, groups, havings, orders,
    limitBy, limit, unions, format, siblings, tables, settings, cluster, fault⟩ := q
  rw [withoutSilent, toSql, toSql]
  simp only [Column.toSqlList_filter, Predicate.toSqlList_filter, Column.toSqlGroups_filter,
    map_bind_eq, selectList_filter, linked_filter, groupClause_map_filter]

end Query

/-- The join without the conditions that have no text. -/
def Join.withoutSilent (j : Join) : Join :=
  { j with onConditions := j.onConditions.filter (!·.isSilent) }

/-- The clause without the columns that have no text, if any are left. -/
def LimitBy.withoutEmpty? (l : LimitBy) : Option LimitBy :=
  match l.columns.filter (!·.isEmpty) with
  | [] => none
  | columns => some { l with columns := columns }

/-- The query without the parts that have no text, in all clauses. -/
def Query.pruned (q : Query) : Query :=
  { q.withoutSilent with
    joins := q.joins.map Join.withoutSilent
    orders := q.orders.filter (!·.column.isEmpty)
    limitBy := q.limitBy.bind LimitBy.withoutEmpty? }

theorem Column.isBlank_of_isEmpty {c : Column} (h : c.isEmpty) : c.isBlank :=
  (isBlank_iff ((toSql_eq_empty_iff c).mpr h)).mp Text.isBlank_empty

theorem Predicate.areBlank_of_filter_eq_nil {ps : List Predicate}
    (h : ps.filter (!·.isSilent) = []) : areBlank ps := by
  rw [areBlank, h]

/-- Keys with a text stay as they are. -/
theorem Join.toSql_withoutSilent {j : Join} {sql : String} (hsql : j.toSql = .ok sql)
    (hon : j.usingColumns = [] → ¬ Predicate.areBlank j.onConditions) :
    j.withoutSilent.toSql = .ok sql := by
  obtain ⟨table, strictness, kind, aliasName, isGlobal, usingColumns, onConditions⟩ := j
  rw [toSql] at hsql
  obtain ⟨u, hcheck, h⟩ := bind_eq_ok.mp hsql
  cases usingColumns with
  | cons c cs =>
      obtain rfl := onConditions_eq_nil_of_check hcheck
      rw [withoutSilent, toSql]
      exact hsql
  | nil =>
      have hkept : onConditions.filter (!·.isSilent) ≠ [] := fun hnil =>
        hon rfl (Predicate.areBlank_of_filter_eq_nil hnil)
      have hne : onConditions ≠ [] := by
        rintro rfl
        exact hkept rfl
      rw [withoutSilent, toSql, ← hsql]
      simp only [Predicate.toSqlList_filter, map_bind_eq, joinKeys, linked_filter,
        List.isEmpty_eq_false_iff.mpr hkept, List.isEmpty_eq_false_iff.mpr hne]

namespace Query

variable {q : Query} {sql : String}

/-- Every keyword has something behind it, and parts without text make no difference. -/
structure KeywordsFollowed (q : Query) : Prop where
  on : ∀ j ∈ q.joins, j.usingColumns = [] →
    ∃ body, Predicate.listToSql j.onConditions = .ok body ∧ ¬ IsBlank body
  conditions : ∀ s, ∃ body, Predicate.listToSql (q.conditions s) = .ok body ∧
    (body = "" ∨ ¬ IsBlank body)
  orders : ∀ o ∈ q.orders, ∃ column, o.column.toSql = .ok column ∧ ¬ IsBlank column
  limitBy : ∀ l, q.limitBy = some l → l.columns ≠ [] ∧
    ∀ c ∈ l.columns, ∃ column, c.toSql = .ok column ∧ ¬ IsBlank column
  toSql_pruned : q.pruned.toSql = q.toSql

/-- The parts behind the keywords have characters other than blanks; the conditions of a clause can
also be silent. -/
structure HasBodies (q : Query) : Prop where
  on : ∀ j ∈ q.joins, j.usingColumns = [] → ¬ Predicate.areBlank j.onConditions
  conditions : ∀ s, (∀ p ∈ q.conditions s, p.isSilent) ∨ ¬ Predicate.areBlank (q.conditions s)
  orders : ∀ o ∈ q.orders, ¬ o.column.isBlank
  limitBy : ∀ l, q.limitBy = some l → l.columns ≠ [] ∧ ∀ c ∈ l.columns, ¬ c.isBlank

theorem HasBodies.toSql_pruned (h : q.HasBodies) (hsql : q.toSql = .ok sql) :
    q.pruned.toSql = .ok sql := by
  have horders : q.orders.filter (!·.column.isEmpty) = q.orders :=
    List.filter_eq_self.mpr fun o ho => by
      simpa using mt Column.isBlank_of_isEmpty (h.orders o ho)
  have hlimitBy : q.limitBy.bind LimitBy.withoutEmpty? = q.limitBy := by
    cases hl : q.limitBy with
    | none => rfl
    | some l =>
        obtain ⟨hne, hcolumns⟩ := h.limitBy l hl
        have hkept : l.columns.filter (!·.isEmpty) = l.columns :=
          List.filter_eq_self.mpr fun c hc => by
            simpa using mt Column.isBlank_of_isEmpty (hcolumns c hc)
        obtain ⟨limit, columns⟩ := l
        obtain ⟨c, cs, rfl⟩ := List.exists_cons_of_ne_nil hne
        rw [Option.bind_some, LimitBy.withoutEmpty?, hkept]
  obtain ⟨t, ht, -⟩ := toSql_eq_ok_iff.mp hsql
  have hjoins : Join.toSqlList (q.joins.map Join.withoutSilent) = Join.toSqlList q.joins := by
    have hall := ht.joins
    rw [Join.toSqlList_eq_mapM, mapM_eq_ok_iff] at hall
    rw [ht.joins, Join.toSqlList_eq_mapM, mapM_eq_ok_iff, List.forall₂_map_left_iff]
    have hboth := (List.forall₂_and_left _ _).mpr ⟨h.on, hall⟩
    exact hboth.imp fun j text hj => Join.toSql_withoutSilent hj.2 hj.1
  have hrest : q.pruned = { q.withoutSilent with joins := q.joins.map Join.withoutSilent } := by
    rw [pruned, horders, hlimitBy]
    rfl
  rw [hrest, ← hsql, ← toSql_withoutSilent q]
  cases q
  rw [withoutSilent, toSql, toSql, hjoins]

end Query

/-! ### The texts of parts -/

theorem Column.exists_text_iff {c : Column} (h : ∃ sql, c.toSql = .ok sql) :
    (∃ sql, c.toSql = .ok sql ∧ ¬ IsBlank sql) ↔ ¬ c.isBlank := by
  obtain ⟨sql, hsql⟩ := h
  rw [hsql, ← isBlank_iff hsql]
  simp

theorem Predicate.exists_body_iff {ps : List Predicate}
    (h : ∃ conditions, toSqlList ps = .ok conditions) :
    (∃ body, listToSql ps = .ok body ∧ ¬ IsBlank body) ↔ ¬ areBlank ps := by
  obtain ⟨conditions, hconditions⟩ := h
  rw [listToSql_of_toSqlList hconditions, ← areBlank_iff hconditions]
  simp

theorem Predicate.exists_body_or_none_iff {ps : List Predicate}
    (h : ∃ conditions, toSqlList ps = .ok conditions) :
    (∃ body, listToSql ps = .ok body ∧ (body = "" ∨ ¬ IsBlank body)) ↔
      (∀ p ∈ ps, p.isSilent) ∨ ¬ areBlank ps := by
  obtain ⟨conditions, hconditions⟩ := h
  rw [listToSql_of_toSqlList hconditions, ← areBlank_iff hconditions,
    ← linked_toSqlList_eq_empty_iff hconditions]
  simp

namespace PartTexts.AreOf

variable {t : PartTexts} {q : Query}

theorem exists_keys (ht : t.AreOf q) {j : Join} (hj : j ∈ q.joins) :
    ∃ conditions, Predicate.toSqlList j.onConditions = .ok conditions := by
  have hjoins := ht.joins
  rw [Join.toSqlList_eq_mapM] at hjoins
  obtain ⟨sql, -, hsql⟩ := exists_of_mapM_eq_ok hjoins hj
  obtain ⟨table, strictness, kind, aliasName, isGlobal, usingColumns, onConditions⟩ := j
  rw [Join.toSql] at hsql
  simp only [bind_eq_ok] at hsql
  obtain ⟨-, -, -, -, conditions, hconditions, -⟩ := hsql
  exact ⟨conditions, hconditions⟩

theorem exists_conditions (ht : t.AreOf q) :
    ∀ s, ∃ conditions, Predicate.toSqlList (q.conditions s) = .ok conditions
  | .preWheres => ⟨_, ht.preWheres⟩
  | .wheres => ⟨_, ht.wheres⟩
  | .havings => ⟨_, ht.havings⟩

theorem exists_order (ht : t.AreOf q) {o : Order} (ho : o ∈ q.orders) :
    ∃ sql, o.column.toSql = .ok sql := by
  have horders := ht.orders
  rw [Order.toSqlList_eq_mapM] at horders
  obtain ⟨text, -, htext⟩ := exists_of_mapM_eq_ok horders ho
  obtain ⟨column, direction, collation⟩ := o
  obtain ⟨sql, hsql, -⟩ := bind_eq_ok.mp htext
  exact ⟨sql, hsql⟩

theorem exists_limitBy (ht : t.AreOf q) {l : LimitBy} (hl : q.limitBy = some l) {c : Column}
    (hc : c ∈ l.columns) : ∃ sql, c.toSql = .ok sql := by
  have hlimitBy := ht.limitBy
  rw [hl] at hlimitBy
  obtain ⟨limit, columns⟩ := l
  obtain ⟨sqls, hsqls, -⟩ := bind_eq_ok.mp hlimitBy
  rw [Column.toSqlList_eq_mapM] at hsqls
  obtain ⟨sql, -, hsql⟩ := exists_of_mapM_eq_ok hsqls hc
  exact ⟨sql, hsql⟩

end PartTexts.AreOf

namespace Query

variable {q : Query} {sql : String}

/-- A query that is written has its keywords followed exactly if there is something behind them. -/
theorem keywordsFollowed_iff_hasBodies (hsql : q.toSql = .ok sql) :
    q.KeywordsFollowed ↔ q.HasBodies := by
  obtain ⟨t, ht, -⟩ := toSql_eq_ok_iff.mp hsql
  have hon := forall₂_congr fun j (hj : j ∈ q.joins) =>
    imp_congr_right fun (_ : j.usingColumns = []) => Predicate.exists_body_iff (ht.exists_keys hj)
  have hconditions := forall_congr' fun s =>
    Predicate.exists_body_or_none_iff (ht.exists_conditions s)
  have horders := forall₂_congr fun o (ho : o ∈ q.orders) =>
    Column.exists_text_iff (ht.exists_order ho)
  have hlimitBy := forall₂_congr fun l (hl : q.limitBy = some l) =>
    and_congr_right fun (_ : l.columns ≠ []) => forall₂_congr fun c (hc : c ∈ l.columns) =>
      Column.exists_text_iff (ht.exists_limitBy hl hc)
  constructor
  · intro h
    exact ⟨hon.mp h.on, hconditions.mp h.conditions, horders.mp h.orders, hlimitBy.mp h.limitBy⟩
  · intro h
    exact ⟨hon.mpr h.on, hconditions.mpr h.conditions, horders.mpr h.orders,
      hlimitBy.mpr h.limitBy, (h.toSql_pruned hsql).trans hsql.symm⟩

/-- **Keywords are followed exactly if what stands behind them is not blank.**  In all queries of a
text, the keywords have something behind them and parts without text make no difference, exactly if
the conditions behind ON and the columns behind ORDER BY and LIMIT BY are not blank, LIMIT BY has a
column, and the conditions of the other clauses are not blank unless they are all silent.  Parts
without text never make a difference in the lists of columns and groups and in these clauses. -/
theorem keywordsFollowed_iff (hsql : q.toSql = .ok sql) :
    ((∀ r ∈ q.rendered, r.KeywordsFollowed) ↔ ∀ r ∈ q.rendered, r.HasBodies) ∧
      (∀ r ∈ q.rendered, ∃ text, r.toSql = .ok text ∧ text.toList <:+: sql.toList) ∧
      ∀ r : Query, r.withoutSilent.toSql = r.toSql := by
  have hrendered : ∀ r ∈ q.rendered, ∃ text, r.toSql = .ok text ∧ text.toList <:+: sql.toList :=
    fun r hr => within_toSql hsql hr
  refine ⟨forall₂_congr fun r hr => ?_, hrendered, toSql_withoutSilent⟩
  obtain ⟨text, htext, -⟩ := hrendered r hr
  exact keywordsFollowed_iff_hasBodies htext

/-- A query over a sub-query, with something behind each keyword. -/
theorem keywordsFollowed_iff_subQuery :
    let inner : Query :=
      { fromClause := some { table := some (.name ⟨"u"⟩) }
        wheres := [.single .and (.value (.raw "")), .single .or (.value (.raw "1"))] }
    let q : Query :=
      { fromClause := some { table := some (.query inner) }
        joins := [{ table := some (.name ⟨"b"⟩), onConditions := [.single .and (.ofName "c")] }]
        orders := [{ column := { source := some (.value (.identifier ⟨"x"⟩)) } }]
        limitBy := some ⟨{ count := 1 }, [{ source := some (.value (.identifier ⟨"y"⟩)) }]⟩ }
    q.toSql = .ok ("SELECT * FROM (SELECT * FROM `u` WHERE 1) JOIN `b` ON `c` " ++
        "ORDER BY `x` LIMIT 1 BY `y`") ∧
      ∀ r ∈ q.rendered, r.KeywordsFollowed := by
  intro inner q
  have hsql : q.toSql = .ok ("SELECT * FROM (SELECT * FROM `u` WHERE 1) JOIN `b` ON `c` " ++
      "ORDER BY `x` LIMIT 1 BY `y`") := rfl
  have hrendered : q.rendered = [q, inner] := rfl
  have hinner : inner.HasBodies :=
    ⟨by decide, fun s => by cases s <;> decide, by decide, nofun⟩
  have houter : q.HasBodies := by
    refine ⟨by decide, fun s => by cases s <;> decide, by decide, fun l hl => ?_⟩
    obtain rfl := Option.some.inj hl
    decide
  refine ⟨hsql, (keywordsFollowed_iff hsql).1.mpr ?_⟩
  rw [hrendered]
  simp only [List.forall_mem_cons]
  exact ⟨houter, hinner, nofun⟩

/-- A join whose condition is empty ends behind its keyword. -/
theorem not_keywordsFollowed_on :
    let q : Query :=
      { fromClause := some { table := some (.name ⟨"t"⟩) }
        joins := [{ table := some (.name ⟨"b"⟩)
                    onConditions := [.single .and (.value (.raw ""))] }] }
    q.toSql = .ok "SELECT * FROM `t` JOIN `b` ON" ∧ q ∈ q.rendered ∧ ¬ q.KeywordsFollowed := by
  intro q
  have hsql : q.toSql = .ok "SELECT * FROM `t` JOIN `b` ON" := rfl
  refine ⟨hsql, mem_rendered_self q, fun h => ?_⟩
  have hbodies := (keywordsFollowed_iff_hasBodies hsql).mp h
  exact hbodies.on _ (List.mem_singleton_self _) rfl (by decide)

end Query

end FluentSql
