import FluentSql.Proofs.Number
import FluentSql.Sql.Select
import Mathlib.Data.List.Forall2

/-! # Columns written as a star

A grouping is given up when one of its columns is written as `*`.  Only a bare `*` is: a name or a
raw piece of SQL of this text, without functions and without an alias
(`Column.toSql_eq_star_iff`).  So a list of groups is given up, or it has no such column and each
column of it is written (`Column.toSqlGroups_eq_ok`). -/

namespace FluentSql

/-- Whether a value is a bare `*`. -/
def Value.isStar : Value → Bool
  | identifier id => id.raw = "*"
  | raw sql => sql = "*"
  | _ => false

/-- Whether a column is a bare `*`. -/
def Column.isStar : Column → Bool
  | ⟨some (.value v), none, []⟩ => v.isStar
  | _ => false

/-! ### Texts that are no star -/

theorem ne_star_of_isNumeric {s : String} (h : ∀ c ∈ s.toList, isNumeric c) : s ≠ "*" := by
  rintro rfl
  exact absurd (h '*' (by decide)) (by decide)

theorem ne_star_of_length {s : String} (h : 2 ≤ s.toList.length) : s ≠ "*" := by
  rintro rfl
  exact absurd h (by decide)

theorem parenthesized_ne_star (sql : String) : parenthesized sql ≠ "*" :=
  ne_star_of_length (by simp [parenthesized])

theorem ColumnFunction.two_le_length_apply (previous : Option ColumnFunction) (inner : String)
    (f : ColumnFunction) : 2 ≤ (f.apply previous inner).toList.length := by
  unfold apply
  split
  case h_4 => split <;> simp <;> omega
  all_goals simp <;> omega

theorem ColumnFunction.applyAll_eq_star_iff (fs : List ColumnFunction) :
    ∀ (previous : Option ColumnFunction) (inner : String),
      applyAll previous inner fs = "*" ↔ inner = "*" ∧ fs = [] := by
  induction fs with
  | nil => intro previous inner; simp [applyAll]
  | cons f fs ih =>
      intro previous inner
      have hne : f.apply previous inner ≠ "*" :=
        ne_star_of_length (f.two_le_length_apply previous inner)
      simp [applyAll, ih, hne]

theorem aliased_eq_star_iff (sql : String) (aliasName : Option Identifier) :
    aliased sql aliasName = "*" ↔ sql = "*" ∧ aliasName = none := by
  cases aliasName with
  | none => simp [aliased]
  | some a =>
      have hne : sql ++ " AS " ++ a.quoted ≠ "*" := ne_star_of_length (by simp; omega)
      by_cases h : sql = "" <;> simp [aliased, h, hne]

/-! ### Names and values -/

theorem Identifier.quotePart_eq_star_iff (cs : List Char) :
    quotePart cs = ['*'] ↔ cs = ['*'] := by
  unfold quotePart
  cases h : splitChars? cs with
  | none => by_cases hs : cs = ['*'] <;> simp [quoteName, hs, backtick]
  | some halves =>
      have hne : cs ≠ ['*'] := by
        rintro rfl
        cases h
      refine iff_of_false (fun he => ?_) hne
      have hlen := congrArg List.length he
      have h4 : " AS ".toList.length = 4 := by decide
      simp only [List.length_append, List.length_cons, List.length_nil] at hlen
      omega

theorem Identifier.quoted_eq_star_iff (id : Identifier) : id.quoted = "*" ↔ id.raw = "*" := by
  have key : quoteChars id.raw.toList = ['*'] ↔ id.raw.toList = ['*'] := by
    unfold quoteChars
    split
    · exact quotePart_eq_star_iff _
    · rename_i hparts
      -- a text of several parts keeps the dot between them
      refine iff_of_false (fun he => ?_) fun h => hparts ['*'] (by rw [h]; rfl)
      cases hp : pieces id.raw.toList with
      | nil => exact absurd hp (List.splitOn_ne_nil _ _)
      | cons a rest =>
          cases rest with
          | nil => exact hparts a hp
          | cons b rest =>
              have hdot : '.' ∈ ['*'] := by
                rw [← he, hp]
                simp [List.intercalate_cons_cons]
              exact absurd hdot (by decide)
  rw [quoted, ← String.toList_inj, String.toList_ofList, ← String.toList_inj]
  exact key

theorem Value.sql_eq_star_iff (v : Value) : v.sql = "*" ↔ v.isStar := by
  cases v with
  | null => decide
  | bool b => cases b <;> decide
  | int n =>
      have hne : toString n.toInt ≠ "*" :=
        ne_star_of_isNumeric fun c h => isNumeric_of_mem_intText h
      simpa [sql, isStar] using hne
  | uint n =>
      have hne : toString n.toNat ≠ "*" :=
        ne_star_of_isNumeric fun c h => isNumeric_of_mem_natText h
      simpa [sql, isStar] using hne
  | float x =>
      have hne : x.sqlText ≠ "*" := by
        rcases x.sqlText_cases with h | h | h | h
        · rw [h]; decide
        · rw [h]; decide
        · rw [h]; decide
        · exact ne_star_of_isNumeric h
      simpa [sql, isStar] using hne
  | string s =>
      have hne : Text.quote s ≠ "*" := by simp [← String.toList_inj]
      simpa [sql, isStar] using hne
  | identifier id => simpa [sql, isStar] using id.quoted_eq_star_iff
  | raw sql => simp [Value.sql, isStar]
  | array items =>
      have hne : "[" ++ Text.commaList (sqlList items) ++ "]" ≠ "*" :=
        ne_star_of_length (by simp)
      simpa [sql, isStar] using hne

/-! ### Columns -/

theorem ColumnSource.toSql_value (v : Value) : ColumnSource.toSql (.value v) = .ok v.sql := by
  rw [ColumnSource.toSql]; rfl

theorem Column.toSql_eq (source : Option ColumnSource) (aliasName : Option Identifier)
    (functions : List ColumnFunction) :
    Column.toSql ⟨source, aliasName, functions⟩ =
      (ColumnSource.toSqlOrNothing source).map fun inner =>
        aliased (ColumnFunction.applyAll none inner functions) aliasName := by
  rw [Column.toSql]
  cases ColumnSource.toSqlOrNothing source <;> rfl

/-- A text without parentheses around it is the text of a value, or that of no source at all. -/
theorem ColumnSource.toSqlOrNothing_eq_ok_iff {source : Option ColumnSource} {text : String}
    (htext : ∀ sql, parenthesized sql ≠ text) :
    toSqlOrNothing source = .ok text ↔
      (source = none ∧ text = "") ∨ ∃ v, source = some (.value v) ∧ v.sql = text := by
  cases source with
  | none => rw [toSqlOrNothing]; simp [pure, Except.pure, eq_comm]
  | some s =>
      rw [toSqlOrNothing]
      cases s with
      | value v => simp [toSql_value]
      | column c =>
          rw [toSql]
          cases c.toSql <;> simp [bind, pure, Except.bind, Except.pure, htext]
      | query q =>
          rw [toSql]
          cases q.toSql <;> simp [bind, pure, Except.bind, Except.pure, htext]

theorem ColumnSource.toSqlOrNothing_eq_star_iff (source : Option ColumnSource) :
    ColumnSource.toSqlOrNothing source = .ok "*" ↔ ∃ v, source = some (.value v) ∧ v.isStar := by
  simp [toSqlOrNothing_eq_ok_iff parenthesized_ne_star, Value.sql_eq_star_iff]

/-- A column is written as `*` exactly when it is a bare `*`. -/
theorem Column.toSql_eq_star_iff (c : Column) : c.toSql = .ok "*" ↔ c.isStar := by
  obtain ⟨source, aliasName, functions⟩ := c
  have hstar : Column.isStar ⟨source, aliasName, functions⟩ ↔
      (∃ v, source = some (.value v) ∧ v.isStar) ∧ functions = [] ∧ aliasName = none := by
    unfold Column.isStar
    split
    · rename_i v h
      cases h
      simp
    · rename_i h
      refine iff_of_false (by decide) ?_
      rintro ⟨⟨v, rfl, -⟩, rfl, rfl⟩
      exact h v rfl
  rw [hstar, ← ColumnSource.toSqlOrNothing_eq_star_iff, Column.toSql_eq]
  cases ColumnSource.toSqlOrNothing source with
  | error e => simp [Except.map]
  | ok inner =>
      simp [Except.map, aliased_eq_star_iff, ColumnFunction.applyAll_eq_star_iff, and_assoc]

/-! ### Groups -/

/-- Groups that hold no bare `*` are written one by one, and others are given up. -/
theorem Column.toSqlGroups_eq_ok {groups : List Column} :
    ∀ {texts : Option (List String)}, Column.toSqlGroups groups = .ok texts →
      (groups.any isStar ∧ texts = none) ∨
        (¬ groups.any isStar ∧ ∃ sqls, texts = some sqls ∧
          List.Forall₂ (fun c sql => c.toSql = .ok sql) groups sqls) := by
  induction groups with
  | nil =>
      intro texts h
      rw [toSqlGroups] at h
      obtain rfl := Except.ok.inj h
      exact .inr ⟨by simp, [], rfl, .nil⟩
  | cons c cs ih =>
      intro texts h
      rw [toSqlGroups] at h
      obtain ⟨sql, hsql, h⟩ := bind_eq_ok.mp h
      split at h
      · rename_i hstar
        subst hstar
        have hc : c.isStar := (toSql_eq_star_iff c).mp hsql
        exact .inl ⟨by simp [hc], (Except.ok.inj h).symm⟩
      · rename_i hne
        have hc : ¬ c.isStar := by
          rw [← toSql_eq_star_iff, hsql]
          simpa using hne
        obtain ⟨rest, hrest, h⟩ := bind_eq_ok.mp h
        obtain rfl := Except.ok.inj h
        rcases ih hrest with ⟨hany, rfl⟩ | ⟨hany, sqls, rfl, hsqls⟩
        · exact .inl ⟨by simp [hany], rfl⟩
        · exact .inr ⟨by simp_all, sql :: sqls, rfl, .cons hsql hsqls⟩

end FluentSql
