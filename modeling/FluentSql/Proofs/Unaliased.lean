import FluentSql.Proofs.Counting
import FluentSql.Proofs.Ink
import FluentSql.Proofs.ValueAlike

/-! # Columns without their aliases

An alias shows in the text of a column in three ways: behind the column, in the name that it
selects, and in a name that a sum or a product adds.  The names count only as long as no later
function puts them in parentheses (`ColumnFunction.leavesOpen`).  `Column.unaliased` takes these
aliases away, and `Column.showsAlias` tells whether there are any.  Without an alias to take away
the text stays as it is, and with one it has less ink (`Column.exists_toSql_unaliased`). -/

namespace FluentSql

/-! ### Texts with less ink -/

/-- The text has less ink than another one, if so asked, and is equal to it otherwise. -/
def Text.Loses (b : Bool) (s' s : String) : Prop :=
  if b then ink s'.toList < ink s.toList else s' = s

namespace Text.Loses

variable {b c : Bool} {s s' t t' : String}

theorem refl (s : String) : Loses false s s := rfl

theorem ink_le (h : Loses b s' s) : ink s'.toList ≤ ink s.toList := by
  cases b with
  | false => exact (congrArg (fun s : String => ink s.toList) h).le
  | true => exact Nat.le_of_lt h

theorem append (hs : Loses b s' s) (ht : Loses c t' t) : Loses (b || c) (s' ++ t') (s ++ t) := by
  have hs' := hs.ink_le
  have ht' := ht.ink_le
  cases b with
  | false =>
      obtain rfl : s' = s := hs
      cases c with
      | false => exact congrArg (s' ++ ·) ht
      | true =>
          have hlt : ink t'.toList < ink t.toList := ht
          simpa [Loses] using hlt
  | true =>
      have hlt : ink s'.toList < ink s.toList := hs
      simp only [Loses, Bool.true_or, if_true, String.toList_append, ink_append]
      omega

/-- Texts around a fixed one. -/
theorem glue (hs : Loses b s' s) (k : String) (ht : Loses c t' t) :
    Loses (b || c) (s' ++ k ++ t') (s ++ k ++ t) := by
  have h := (hs.append (refl k)).append ht
  rwa [Bool.or_false] at h

theorem eq_iff (h : Loses b s' s) : s' = s ↔ b = false := by
  cases b with
  | false => exact iff_of_true h rfl
  | true =>
      have hlt : ink s'.toList < ink s.toList := h
      refine iff_of_false ?_ (by decide)
      rintro rfl
      exact Nat.lt_irrefl _ hlt

theorem eq_false_of_empty (h : Loses b s' "") : b = false := by
  cases b with
  | false => rfl
  | true => exact absurd h (Nat.not_lt_zero _)

end Text.Loses

open Text (Loses)

/-! ### Values and functions -/

namespace Value

/-- Whether the value is a name that carries an alias. -/
def carriesAlias : Value → Bool
  | identifier id => id.carriesAlias
  | _ => false

/-- The value, without its alias if it is a name that stands open. -/
def unaliased (isOpen : Bool) : Value → Value
  | identifier id => identifier (if isOpen then id.withoutAlias else id)
  | v => v

theorem loses_sql (v : Value) (isOpen : Bool) :
    Loses (v.carriesAlias && isOpen) (v.unaliased isOpen).sql v.sql := by
  cases v with
  | identifier id =>
      rw [carriesAlias, unaliased]
      cases isOpen with
      | false =>
          rw [Bool.and_false]
          exact Loses.refl _
      | true =>
          rw [Bool.and_true]
          cases h : id.carriesAlias with
          | false =>
              rw [Identifier.withoutAlias_of_not_carriesAlias h]
              exact Loses.refl _
          | true => exact Identifier.ink_withoutAlias_lt h
  | _ => exact Loses.refl _

theorem carriesAlias_unaliased (v : Value) : (v.unaliased true).carriesAlias = false := by
  cases v with
  | identifier id => exact id.carriesAlias_withoutAlias
  | _ => rfl

theorem isRawFree_unaliased (v : Value) (isOpen : Bool) :
    (v.unaliased isOpen).isRawFree = v.isRawFree := by
  cases v <;> rfl

end Value

namespace ColumnFunction

/-- Whether there is a sum, which a product puts in parentheses. -/
def isPlus : Option ColumnFunction → Bool
  | some (plus _) => true
  | _ => false

/-- Whether a function puts what it is applied to in parentheses, or leaves it out. -/
def encloses (previous : Option ColumnFunction) : ColumnFunction → Bool
  | plus _ | distinct => false
  | multiply _ => isPlus previous
  | _ => true

/-- Whether no function of a pipeline puts what it is applied to in parentheses. -/
def leavesOpen (previous : Option ColumnFunction) : List ColumnFunction → Bool
  | [] => true
  | f :: fs => !f.encloses previous && leavesOpen (some f) fs

/-- Whether a function adds a name that carries an alias. -/
def carriesAlias : ColumnFunction → Bool
  | plus v | multiply v => v.carriesAlias
  | _ => false

/-- Whether a name that carries an alias is added outside the parentheses of later functions. -/
def showsAlias : List ColumnFunction → Bool
  | [] => false
  | f :: fs => (f.carriesAlias && leavesOpen (some f) fs) || showsAlias fs

/-- The function, without the alias of a name that it adds if the name stands open. -/
def unaliased (isOpen : Bool) : ColumnFunction → ColumnFunction
  | plus v => plus (v.unaliased isOpen)
  | multiply v => multiply (v.unaliased isOpen)
  | f => f

/-- The pipeline, without the aliases of names that stand open. -/
def unaliasedAll : List ColumnFunction → List ColumnFunction
  | [] => []
  | f :: fs => f.unaliased (leavesOpen (some f) fs) :: unaliasedAll fs

theorem isPlus_unaliased (f : ColumnFunction) (isOpen : Bool) :
    isPlus (some (f.unaliased isOpen)) = isPlus (some f) := by
  cases f <;> rfl

theorem apply_multiply_eq (previous : Option ColumnFunction) (inner : String) (v : Value) :
    (multiply v).apply previous inner =
      (if isPlus previous then parenthesized inner else inner) ++ " * " ++ v.sql := by
  cases h : isPlus previous with
  | true =>
      obtain ⟨w, rfl⟩ : ∃ w, previous = some (plus w) := by
        unfold isPlus at h
        split at h
        · exact ⟨_, rfl⟩
        · cases h
      exact apply_multiply_plus inner v w
  | false =>
      refine apply_multiply (fun w hw => ?_) inner v
      rw [hw] at h
      cases h

theorem carriesAlias_unaliased (f : ColumnFunction) : (f.unaliased true).carriesAlias = false := by
  cases f with
  | plus v => exact v.carriesAlias_unaliased
  | multiply v => exact v.carriesAlias_unaliased
  | _ => rfl

theorem isRawFree_unaliased (f : ColumnFunction) (isOpen : Bool) :
    (f.unaliased isOpen).isRawFree = f.isRawFree := by
  cases f with
  | plus v => exact v.isRawFree_unaliased isOpen
  | multiply v => exact v.isRawFree_unaliased isOpen
  | _ => rfl

theorem all_isRawFree_unaliasedAll (fs : List ColumnFunction) :
    (unaliasedAll fs).all isRawFree = fs.all isRawFree := by
  induction fs with
  | nil => rfl
  | cons f fs ih => rw [unaliasedAll, List.all_cons, List.all_cons, isRawFree_unaliased, ih]

variable {previous previous' : Option ColumnFunction} {b : Bool} {s s' : String}

/-- Which parentheses a function writes does not depend on aliases. -/
theorem encloses_unaliased (f : ColumnFunction) (isOpen : Bool)
    (hprevious : isPlus previous' = isPlus previous) :
    (f.unaliased isOpen).encloses previous' = f.encloses previous := by
  cases f with
  | multiply v => exact hprevious
  | _ => rfl

theorem leavesOpen_unaliasedAll (fs : List ColumnFunction) :
    ∀ {previous previous' : Option ColumnFunction}, isPlus previous' = isPlus previous →
      leavesOpen previous' (unaliasedAll fs) = leavesOpen previous fs := by
  induction fs with
  | nil => exact fun _ => rfl
  | cons f fs ih =>
      intro previous previous' hprevious
      rw [unaliasedAll, leavesOpen, leavesOpen, encloses_unaliased f _ hprevious,
        ih (isPlus_unaliased f _)]

theorem showsAlias_unaliasedAll (fs : List ColumnFunction) :
    showsAlias (unaliasedAll fs) = false := by
  induction fs with
  | nil => rfl
  | cons f fs ih =>
      rw [unaliasedAll, showsAlias, ih, Bool.or_false,
        leavesOpen_unaliasedAll fs (isPlus_unaliased f _)]
      cases hopen : leavesOpen (some f) fs with
      | false => exact Bool.and_false _
      | true => rw [carriesAlias_unaliased, Bool.false_and]

/-- What a function is applied to has lost an alias only if the function does not enclose it. -/
theorem loses_apply (f : ColumnFunction) (isOpen : Bool)
    (hprevious : isPlus previous' = isPlus previous) (h : Loses b s' s)
    (hb : b → f.encloses previous = false) :
    Loses (b || (f.carriesAlias && isOpen))
      ((f.unaliased isOpen).apply previous' s') (f.apply previous s) := by
  have hsame (henclosed : f.encloses previous = true) : b = false ∧ s' = s := by
    have hfalse : b = false := by
      by_contra hne
      rw [hb (by simpa using hne)] at henclosed
      cases henclosed
    exact ⟨hfalse, h.eq_iff.mpr hfalse⟩
  cases f with
  | plus v => exact h.glue " + " (v.loses_sql isOpen)
  | distinct =>
      have hcarries : distinct.carriesAlias = false := rfl
      rw [hcarries, Bool.false_and, Bool.or_false]
      exact (Loses.refl "DISTINCT ").append h
  | multiply v =>
      rw [unaliased, apply_multiply_eq, apply_multiply_eq, hprevious]
      refine Loses.glue ?_ " * " (v.loses_sql isOpen)
      cases hplus : isPlus previous with
      | false => exact h
      | true =>
          obtain ⟨rfl, rfl⟩ := hsame hplus
          exact Loses.refl _
  | _ =>
      obtain ⟨rfl, rfl⟩ := hsame rfl
      exact Loses.refl _

/-- A pipeline around a text that has lost an alias, if no function encloses it. -/
theorem loses_applyAll (fs : List ColumnFunction) : ∀ (previous previous' : Option ColumnFunction)
    {b : Bool} {s s' : String}, isPlus previous' = isPlus previous → Loses b s' s →
      (b → leavesOpen previous fs) →
        Loses (b || showsAlias fs) (applyAll previous' s' (unaliasedAll fs))
          (applyAll previous s fs) := by
  induction fs with
  | nil =>
      intro _ _ b _ _ _ h _
      rw [showsAlias, Bool.or_false]
      exact h
  | cons f fs ih =>
      intro previous previous' b s s' hprevious h hb
      have hstep := loses_apply f (leavesOpen (some f) fs) hprevious h fun htrue => by
        have hopen := hb htrue
        simp only [leavesOpen, Bool.and_eq_true, Bool.not_eq_true'] at hopen
        exact hopen.1
      rw [showsAlias, ← Bool.or_assoc]
      refine ih _ _ (isPlus_unaliased f _) hstep fun htrue => ?_
      rcases Bool.or_eq_true_iff.mp htrue with htrue | htrue
      · exact (Bool.and_eq_true_iff.mp (hb htrue)).2
      · exact (Bool.and_eq_true_iff.mp htrue).2

end ColumnFunction

/-! ### Columns -/

namespace ColumnSource

/-- Whether the source is a name that carries an alias. -/
def carriesAlias : ColumnSource → Bool
  | value v => v.carriesAlias
  | _ => false

/-- The source, without its alias if it is a name that stands open. -/
def unaliased (isOpen : Bool) : ColumnSource → ColumnSource
  | value v => value (v.unaliased isOpen)
  | s => s

theorem exists_toSql_unaliased {source : ColumnSource} {sql : String} (isOpen : Bool)
    (h : source.toSql = .ok sql) :
    ∃ sql', (source.unaliased isOpen).toSql = .ok sql' ∧
      Loses (source.carriesAlias && isOpen) sql' sql := by
  cases source with
  | value v =>
      rw [toSql_value] at h
      obtain rfl := Except.ok.inj h
      exact ⟨_, toSql_value _, v.loses_sql isOpen⟩
  | _ => exact ⟨sql, h, Loses.refl sql⟩

theorem carriesAlias_unaliased (source : ColumnSource) :
    (source.unaliased true).carriesAlias = false := by
  cases source with
  | value v => exact v.carriesAlias_unaliased
  | _ => rfl

theorem isRawFree_unaliased (source : ColumnSource) (isOpen : Bool) :
    (source.unaliased isOpen).isRawFree = source.isRawFree := by
  cases source with
  | value v => exact v.isRawFree_unaliased isOpen
  | _ => rfl

end ColumnSource

namespace Column

/-- Whether an alias shows in the text of the column outside parentheses. -/
def showsAlias : Column → Bool
  | ⟨source, aliasName, functions⟩ =>
      (aliasName.isSome && !isEmpty ⟨source, aliasName, functions⟩) ||
        ((source.any ColumnSource.carriesAlias && ColumnFunction.leavesOpen none functions) ||
          ColumnFunction.showsAlias functions)

/-- The column, without the aliases that show in its text. -/
def unaliased : Column → Column
  | ⟨source, _, functions⟩ =>
      ⟨source.map (ColumnSource.unaliased (ColumnFunction.leavesOpen none functions)), none,
        ColumnFunction.unaliasedAll functions⟩

/-- No alias is left to take away. -/
theorem showsAlias_unaliased (c : Column) : c.unaliased.showsAlias = false := by
  obtain ⟨source, aliasName, functions⟩ := c
  rw [unaliased, showsAlias, ColumnFunction.showsAlias_unaliasedAll,
    ColumnFunction.leavesOpen_unaliasedAll functions rfl]
  cases source with
  | none => rfl
  | some source =>
      cases hopen : ColumnFunction.leavesOpen none functions with
      | false => simp
      | true => simp [ColumnSource.carriesAlias_unaliased]

theorem isRawFree_unaliased (c : Column) : c.unaliased.isRawFree = c.isRawFree := by
  obtain ⟨source, aliasName, functions⟩ := c
  rw [unaliased, isRawFree, isRawFree, ColumnFunction.all_isRawFree_unaliasedAll]
  cases source with
  | none => rfl
  | some source =>
      exact congrArg (· && _) (source.isRawFree_unaliased _)

/-- A bare `*` has no alias. -/
theorem unaliased_of_isStar {c : Column} (h : c.isStar) : c.unaliased = c := by
  unfold isStar at h
  split at h
  · rename_i v
    cases v with
    | identifier id =>
        have hraw : id.raw = "*" := of_decide_eq_true h
        have hcarries : id.carriesAlias = false := by
          obtain ⟨raw⟩ := id
          subst hraw
          rfl
        have hid : id.withoutAlias = id := Identifier.withoutAlias_of_not_carriesAlias hcarries
        have hunaliased : unaliased ⟨some (.value (.identifier id)), none, []⟩ =
            ⟨some (.value (.identifier id.withoutAlias)), none, []⟩ := rfl
        rw [hunaliased, hid]
    | _ => rfl
  · cases h

theorem isEmpty_unaliased (c : Column) : c.unaliased.isEmpty = c.isEmpty := by
  obtain ⟨source, aliasName, functions⟩ := c
  rcases source with _ | (v | c | q)
  · cases functions <;> rfl
  · cases v <;> cases functions <;> rfl
  · cases functions <;> rfl
  · cases functions <;> rfl

theorem eq_empty_iff_isEmpty {c : Column} {sql : String} (h : c.toSql = .ok sql) :
    sql = "" ↔ c.isEmpty := by
  rw [← toSql_eq_empty_iff, h, Except.ok.injEq]

/-- An alias behind a text adds ink, unless there is no text. -/
theorem loses_aliased {b isEmpty : Bool} {s s' : String} (h : Loses b s' s)
    (aliasName : Option Identifier) (hempty : aliased s aliasName = "" ↔ isEmpty = true) :
    Loses ((aliasName.isSome && !isEmpty) || b) s' (aliased s aliasName) := by
  cases aliasName with
  | none => exact h
  | some a =>
      by_cases hs : s = ""
      · have haliased : aliased s (some a) = "" := if_pos hs
        rw [haliased, hempty.mp haliased, ← hs]
        exact h
      · have haliased : aliased s (some a) = s ++ " AS " ++ a.quoted := if_neg hs
        have hfalse : isEmpty = false := by
          rw [← Bool.not_eq_true, ← hempty, haliased]
          simp [← String.toList_eq_nil_iff]
        have hle := h.ink_le
        have has : Text.ink " AS ".toList = 2 := by decide
        rw [haliased, hfalse]
        simp only [Loses, Option.isSome_some, Bool.not_false, Bool.and_true, Bool.true_or, if_true,
          String.toList_append, Text.ink_append, has]
        omega

/-- Without its aliases a column is written like before, with less ink if there were any. -/
theorem exists_toSql_unaliased {c : Column} {sql : String} (h : c.toSql = .ok sql) :
    ∃ sql', c.unaliased.toSql = .ok sql' ∧ Loses c.showsAlias sql' sql ∧
      (sql' = "" ↔ sql = "") := by
  have hempty : ∀ sql', c.unaliased.toSql = .ok sql' → (sql' = "" ↔ sql = "") := fun sql' h' => by
    rw [eq_empty_iff_isEmpty h', eq_empty_iff_isEmpty h, isEmpty_unaliased]
  suffices hloses : ∃ sql', c.unaliased.toSql = .ok sql' ∧ Loses c.showsAlias sql' sql by
    obtain ⟨sql', hsql', hloses⟩ := hloses
    exact ⟨sql', hsql', hloses, hempty sql' hsql'⟩
  have hisEmpty := eq_empty_iff_isEmpty h
  obtain ⟨source, aliasName, functions⟩ := c
  have hsource : ∀ inner, ColumnSource.toSqlOrNothing source = .ok inner →
      ∃ inner', ColumnSource.toSqlOrNothing (source.map
          (ColumnSource.unaliased (ColumnFunction.leavesOpen none functions))) = .ok inner' ∧
        Loses (source.any ColumnSource.carriesAlias && ColumnFunction.leavesOpen none functions)
          inner' inner := by
    intro inner hinner
    cases source with
    | none => exact ⟨inner, hinner, Loses.refl inner⟩
    | some source => exact ColumnSource.exists_toSql_unaliased _ hinner
  rw [toSql_eq] at h
  obtain ⟨inner, hinner, rfl⟩ := map_eq_ok_iff.mp h
  obtain ⟨inner', hinner', hloses⟩ := hsource inner hinner
  have happlied := ColumnFunction.loses_applyAll functions none none rfl hloses fun htrue =>
    (Bool.and_eq_true_iff.mp htrue).2
  refine ⟨ColumnFunction.applyAll none inner' (ColumnFunction.unaliasedAll functions), ?_,
    loses_aliased happlied aliasName hisEmpty⟩
  rw [unaliased, toSql_eq, hinner']
  rfl

end Column

end FluentSql
