import FluentSql.Proofs.Counting
import FluentSql.Proofs.Rendered
import FluentSql.Proofs.WellFormed
import FluentSql.Sql.Write

/-! # Deletions and their conditions

A deletion is refused when its WHERE conditions have no text (`Query.deleteSql_eq_error_iff`).  A
condition has no text if it is a single side without any (`Predicate.isSilent`), whereas an operator
and the parentheses of a group are text, whatever stands beside them or between them.  So a
deletion whose conditions say nothing, because all sides in them are blank, is refused
exactly if nothing is around these sides either (`Query.deletesByCondition_iff`). -/

namespace FluentSql

/-- The text has no characters other than blanks. -/
def Text.IsBlank (s : String) : Prop := ∀ c ∈ s.toList, isBlank c

/-! ### The sides in a condition -/

mutual

/-- The sides in a condition that are neither groups nor conditions themselves, at any depth. -/
def Operand.leaves : Operand → List Operand
  | .value v => [.value v]
  | .tuple t => [.tuple t]
  | .column c => [.column c]
  | .group ps => Predicate.leavesOfList ps
  | .predicate p => p.leaves
  | .query q => [.query q]

def Operand.leavesOfOption : Option Operand → List Operand
  | none => []
  | some o => o.leaves

def Predicate.leaves : Predicate → List Operand
  | ⟨first, _, second, _⟩ => first.leaves ++ Operand.leavesOfOption second

def Predicate.leavesOfList : List Predicate → List Operand
  | [] => []
  | p :: ps => p.leaves ++ Predicate.leavesOfList ps

end

/-- The text of the side stands in the given text. -/
def Operand.StandsIn (o : Operand) (sql : String) : Prop :=
  ∃ t, o.toSql = .ok t ∧ t.toList <:+: sql.toList

theorem Operand.StandsIn.mono {o : Operand} {sql sql' : String} (h : o.StandsIn sql)
    (hsub : sql.toList <:+: sql'.toList) : o.StandsIn sql' := by
  obtain ⟨t, ht, hinfix⟩ := h
  exact ⟨t, ht, hinfix.trans hsub⟩

theorem Operand.yields_self (o : Operand) :
    Yields (fun sql => ∀ l ∈ [o], l.StandsIn sql) o.toSql := by
  intro sql hsql l hl
  obtain rfl := List.mem_singleton.mp hl
  exact ⟨sql, hsql, List.infix_rfl⟩

mutual

/-- The text of a side holds the texts of the sides in it. -/
theorem Operand.yields_leaves : ∀ o : Operand,
    Yields (fun sql => ∀ l ∈ o.leaves, l.StandsIn sql) o.toSql
  | .value v => by rw [Operand.leaves]; exact Operand.yields_self _
  | .tuple t => by rw [Operand.leaves]; exact Operand.yields_self _
  | .column c => by rw [Operand.leaves]; exact Operand.yields_self _
  | .group ps => by
      rw [Operand.leaves, Operand.toSql]
      refine (Predicate.yields_leavesOfList ps).map fun conditions h l hl => ?_
      obtain ⟨c, hc, hstands⟩ := h l hl
      exact hstands.mono ((isInfix_linked hc).trans (isInfix_parenthesized _))
  | .predicate p => by
      rw [Operand.leaves, Operand.toSql]
      exact Predicate.yields_leaves p
  | .query q => by rw [Operand.leaves]; exact Operand.yields_self _

theorem Operand.yields_leavesOfOption : ∀ o : Option Operand,
    Yields (fun sql => ∀ l ∈ Operand.leavesOfOption o, l.StandsIn sql) (Operand.toSqlOrNothing o)
  | none => by
      rw [Operand.leavesOfOption, Operand.toSqlOrNothing]
      exact Yields.pure fun _ h => nomatch h
  | some o => by
      rw [Operand.leavesOfOption, Operand.toSqlOrNothing]
      exact Operand.yields_leaves o

theorem Predicate.yields_leaves : ∀ p : Predicate,
    Yields (fun sql => ∀ l ∈ p.leaves, l.StandsIn sql) p.toSql
  | ⟨first, operator, second, _⟩ => by
      rw [Predicate.leaves, Predicate.toSql]
      refine (Operand.yields_leaves first).bind fun sql _ hfirst => ?_
      refine (Operand.yields_leavesOfOption second).map fun sql' hsecond l hl => ?_
      rcases List.mem_append.mp hl with hl | hl
      · exact (hfirst l hl).mono (isInfix_relation_first sql operator sql')
      · exact (hsecond l hl).mono (isInfix_relation_second sql operator sql')

theorem Predicate.yields_leavesOfList : ∀ ps : List Predicate,
    Yields (fun conditions => ∀ l ∈ Predicate.leavesOfList ps, ∃ c ∈ conditions, l.StandsIn c.2)
      (Predicate.toSqlList ps)
  | [] => by
      rw [Predicate.leavesOfList, Predicate.toSqlList]
      exact Yields.pure fun _ h => nomatch h
  | p :: ps => by
      rw [Predicate.leavesOfList, Predicate.toSqlList]
      refine (Predicate.yields_leaves p).bind fun sql _ hp => ?_
      refine (Predicate.yields_leavesOfList ps).map fun conditions hps l hl => ?_
      rcases List.mem_append.mp hl with hl | hl
      · exact ⟨_, List.mem_cons_self, hp l hl⟩
      · obtain ⟨c, hc, hstands⟩ := hps l hl
        exact ⟨c, List.mem_cons_of_mem _ hc, hstands⟩

end

/-! ### Conditions without text -/

mutual

/-- Whether the side is written as nothing. -/
def Operand.isSilent : Operand → Bool
  | .value (.raw sql) => sql = ""
  | .value _ => false
  | .tuple _ => false
  | .column c => c.isEmpty
  | .group _ => false
  | .predicate p => p.isSilent
  | .query _ => false

def Operand.isSilentOption : Option Operand → Bool
  | none => true
  | some o => o.isSilent

/-- Whether the condition is written as nothing: it has no operator and its sides have no text. -/
def Predicate.isSilent : Predicate → Bool
  | ⟨first, operator, second, _⟩ =>
      operator.isNone && first.isSilent && Operand.isSilentOption second

end

theorem Text.words_eq_empty_iff {pieces : List String} :
    words pieces = "" ↔ ∀ s ∈ pieces, s = "" := by
  refine ⟨fun h s hs => ?_, fun h => ?_⟩
  · have hinfix := isInfix_words hs
    rw [h] at hinfix
    exact String.toList_eq_nil_iff.mp (List.infix_nil.mp hinfix)
  · have hnil : pieces.filter (· ≠ "") = [] := by simpa using h
    rw [words, hnil]
    rfl

theorem relation_eq_empty_iff {first second : String} {operator : Option Operator} :
    relation first operator second = "" ↔ operator = none ∧ first = "" ∧ second = "" := by
  have htoken (op : Operator) : op.token ≠ "" := by cases op <;> decide
  unfold relation
  split <;> simp [Text.words_eq_empty_iff, htoken]

theorem linked_eq_empty_iff {conditions : List (Conjunction × String)} :
    linked conditions = "" ↔ ∀ c ∈ conditions, c.2 = "" := by
  refine ⟨fun h c hc => ?_, fun h => ?_⟩
  · have hinfix := isInfix_linked hc
    rw [h] at hinfix
    exact String.toList_eq_nil_iff.mp (List.infix_nil.mp hinfix)
  · have hnil : conditions.filter (·.2 ≠ "") = [] := by simpa using h
    rw [linked, hnil]

mutual

theorem Operand.toSql_eq_empty_iff : ∀ o : Operand, o.toSql = .ok "" ↔ o.isSilent
  | .value v => by
      have htext : Except.ok (ε := QueryError) v.sql = .ok "" ↔ v = .raw "" := by
        rw [Except.ok.injEq, Value.sql_eq_empty_iff]
      rw [Operand.toSql]
      refine htext.trans ?_
      cases v <;> simp [Operand.isSilent]
  | .tuple t => by
      rw [Operand.toSql, Operand.isSilent]
      refine iff_of_false (fun h => ?_) (by decide)
      exact parenthesized_ne_empty _ (Except.ok.inj h)
  | .column c => by
      rw [Operand.toSql, Operand.isSilent]
      exact c.toSql_eq_empty_iff
  | .group ps => by
      rw [Operand.toSql, Operand.isSilent]
      refine iff_of_false (fun h => ?_) (by decide)
      obtain ⟨conditions, -, hsql⟩ := bind_eq_ok.mp h
      exact parenthesized_ne_empty _ (Except.ok.inj hsql)
  | .predicate p => by
      rw [Operand.toSql, Operand.isSilent]
      exact Predicate.toSql_eq_empty_iff p
  | .query q => by
      rw [Operand.toSql, Operand.isSilent]
      refine iff_of_false (fun h => ?_) (by decide)
      obtain ⟨sql, -, hsql⟩ := bind_eq_ok.mp h
      exact parenthesized_ne_empty _ (Except.ok.inj hsql)

theorem Operand.toSqlOrNothing_eq_empty_iff : ∀ o : Option Operand,
    Operand.toSqlOrNothing o = .ok "" ↔ Operand.isSilentOption o
  | none => by
      rw [Operand.toSqlOrNothing, Operand.isSilentOption]
      exact iff_of_true rfl rfl
  | some o => by
      rw [Operand.toSqlOrNothing, Operand.isSilentOption]
      exact Operand.toSql_eq_empty_iff o

/-- A condition is written as nothing exactly if it is silent. -/
theorem Predicate.toSql_eq_empty_iff : ∀ p : Predicate, p.toSql = .ok "" ↔ p.isSilent
  | ⟨first, operator, second, _⟩ => by
      rw [Predicate.toSql, Predicate.isSilent, Bool.and_eq_true, Bool.and_eq_true,
        ← Operand.toSql_eq_empty_iff first, ← Operand.toSqlOrNothing_eq_empty_iff second,
        Option.isNone_iff_eq_none]
      simp only [bind_eq_ok]
      constructor
      · rintro ⟨sql, hfirst, sql', hsecond, h⟩
        obtain ⟨hoperator, rfl, rfl⟩ := relation_eq_empty_iff.mp (Except.ok.inj h)
        exact ⟨⟨hoperator, hfirst⟩, hsecond⟩
      · rintro ⟨⟨rfl, hfirst⟩, hsecond⟩
        exact ⟨"", hfirst, "", hsecond, rfl⟩

end

theorem Predicate.linked_toSqlList_eq_empty_iff {ps : List Predicate} :
    ∀ {conditions}, toSqlList ps = .ok conditions →
      (linked conditions = "" ↔ ∀ p ∈ ps, p.isSilent) := by
  intro conditions h
  rw [linked_eq_empty_iff]
  induction ps generalizing conditions with
  | nil =>
      obtain rfl := Except.ok.inj h
      simp
  | cons p ps ih =>
      rw [toSqlList] at h
      obtain ⟨sql, hsql, h⟩ := bind_eq_ok.mp h
      obtain ⟨rest, hrest, h⟩ := bind_eq_ok.mp h
      obtain rfl := Except.ok.inj h
      rw [List.forall_mem_cons, List.forall_mem_cons, ih hrest, ← toSql_eq_empty_iff, hsql,
        Except.ok.injEq]

/-- Silent conditions are well formed. -/
theorem Predicate.exists_toSqlList_of_isSilent {ps : List Predicate} (h : ∀ p ∈ ps, p.isSilent) :
    ∃ conditions, toSqlList ps = .ok conditions := by
  induction ps with
  | nil => exact ⟨[], rfl⟩
  | cons p ps ih =>
      obtain ⟨hp, hps⟩ := List.forall_mem_cons.mp h
      obtain ⟨rest, hrest⟩ := ih hps
      exact ⟨_, by rw [toSqlList, toSql_eq_empty_iff p |>.mpr hp, hrest]; rfl⟩

/-! ### Deletions -/

namespace Query

variable {q : Query} {table sql : String} {conditions : List (Conjunction × String)}

theorem deleteSql_of_conditions (htable : q.tableSql .missingFrom = .ok table)
    (hconditions : Predicate.toSqlList q.wheres = .ok conditions) :
    q.deleteSql =
      if linked conditions = "" then .error .missingDeleteWhere
      else .ok ("ALTER TABLE " ++ table ++ clusterText q.cluster ++ " DELETE WHERE " ++
        linked conditions) := by
  have hwhere : q.whereSql = .ok (Text.clause "WHERE" (linked conditions)) := by
    rw [whereSql, hconditions]
    rfl
  have hbind : q.deleteSql =
      if Text.clause "WHERE" (linked conditions) = "" then .error .missingDeleteWhere
      else .ok ("ALTER TABLE " ++ table ++ clusterText q.cluster ++ " DELETE " ++
        Text.clause "WHERE" (linked conditions)) := by
    rw [deleteSql, htable, hwhere]
    rfl
  have hempty := Text.clause_eq_empty_iff "WHERE" (linked conditions)
  have hkeywords : " DELETE WHERE " = " DELETE " ++ "WHERE" ++ " " := rfl
  rw [hbind]
  by_cases hnone : linked conditions = ""
  · rw [if_pos (hempty.mpr hnone), if_pos hnone]
  · rw [if_neg (mt hempty.mp hnone), if_neg hnone, Text.clause, if_neg hnone, hkeywords]
    simp only [String.append_assoc]

theorem deleteSql_of_conditions_error (htable : q.tableSql .missingFrom = .ok table)
    {e : QueryError} (he : Predicate.toSqlList q.wheres = .error e) :
    q.deleteSql = .error e := by
  rw [deleteSql, htable, whereSql, he]
  rfl

/-- A deletion is refused for want of a condition exactly if its conditions have no text. -/
theorem deleteSql_eq_error_iff (htable : q.tableSql .missingFrom = .ok table) :
    q.deleteSql = .error .missingDeleteWhere ↔ ∀ p ∈ q.wheres, p.isSilent := by
  cases hconditions : Predicate.toSqlList q.wheres with
  | ok conditions =>
      rw [deleteSql_of_conditions htable hconditions,
        ← Predicate.linked_toSqlList_eq_empty_iff hconditions]
      split <;> simp_all
  | error e =>
      rw [deleteSql_of_conditions_error htable hconditions]
      refine iff_of_false ?_ fun hsilent => ?_
      · -- the faults of conditions are not that there are none
        rintro ⟨⟩
        obtain ⟨f, -, hf⟩ := ((Predicate.reports_faultsOfList q.wheres).error_iff _).mp hconditions
        cases f <;> cases hf
      · obtain ⟨conditions, hok⟩ := Predicate.exists_toSqlList_of_isSilent hsilent
        rw [hok] at hconditions
        cases hconditions

/-- The statement of a deletion ends in its conditions, with the texts of all sides in them. -/
theorem exists_of_deleteSql_eq_ok (h : q.deleteSql = .ok sql) :
    ∃ table text, q.tableSql .missingFrom = .ok table ∧
      sql = "ALTER TABLE " ++ table ++ clusterText q.cluster ++ " DELETE WHERE " ++ text ∧
      text ≠ "" ∧ ∀ l ∈ Predicate.leavesOfList q.wheres, l.StandsIn text := by
  obtain ⟨table, htable, -⟩ := bind_eq_ok.mp h
  cases hconditions : Predicate.toSqlList q.wheres with
  | error e =>
      rw [deleteSql_of_conditions_error htable hconditions] at h
      cases h
  | ok conditions =>
      rw [deleteSql_of_conditions htable hconditions] at h
      split at h
      · cases h
      · rename_i hne
        refine ⟨table, linked conditions, htable, (Except.ok.inj h).symm, hne, fun l hl => ?_⟩
        obtain ⟨c, hc, hstands⟩ :=
          Predicate.yields_leavesOfList q.wheres conditions hconditions l hl
        exact hstands.mono (isInfix_linked hc)

/-- All sides in the WHERE conditions are blank. -/
def SaysNothing (q : Query) : Prop :=
  ∀ l ∈ Predicate.leavesOfList q.wheres, ∃ t, l.toSql = .ok t ∧ Text.IsBlank t

/-- Each deletion has a side that is not blank in its condition, and conditions of blank sides are
refused like none. -/
structure DeletesByCondition (q : Query) : Prop where
  condition : ∀ sql, q.deleteSql = .ok sql → ∃ table text, q.tableSql .missingFrom = .ok table ∧
    sql = "ALTER TABLE " ++ table ++ clusterText q.cluster ++ " DELETE WHERE " ++ text ∧
    ∃ l ∈ Predicate.leavesOfList q.wheres, ∃ t, l.toSql = .ok t ∧ ¬ Text.IsBlank t ∧
      t.toList <:+: text.toList
  refusal : ∀ table, q.tableSql .missingFrom = .ok table → q.SaysNothing →
    q.deleteSql = .error .missingDeleteWhere

/-- **Deletions without a condition are refused exactly if their conditions have no text at all.**
The statement of a deletion that is not refused ends in its conditions, with the text of each side
in them.  So a deletion is refused whenever all sides in its conditions are blank, and else one of
them is not, unless there is text around blank sides: an operator, the parentheses of a group, or
the blanks themselves. -/
theorem deletesByCondition_iff (q : Query) :
    (∀ table, q.tableSql .missingFrom = .ok table →
      (q.deleteSql = .error .missingDeleteWhere ↔ ∀ p ∈ q.wheres, p.isSilent)) ∧
    (∀ sql, q.deleteSql = .ok sql → ∃ table text, q.tableSql .missingFrom = .ok table ∧
      sql = "ALTER TABLE " ++ table ++ clusterText q.cluster ++ " DELETE WHERE " ++ text ∧
      text ≠ "" ∧ ∀ l ∈ Predicate.leavesOfList q.wheres, l.StandsIn text) ∧
    (q.DeletesByCondition ↔ ∀ table, q.tableSql .missingFrom = .ok table →
      q.SaysNothing → ∀ p ∈ q.wheres, p.isSilent) := by
  refine ⟨fun _ => deleteSql_eq_error_iff, fun _ => exists_of_deleteSql_eq_ok, ?_, ?_⟩
  · intro hdeletes table htable hnothing
    exact (deleteSql_eq_error_iff htable).mp (hdeletes.refusal table htable hnothing)
  · intro hsilent
    refine ⟨fun sql hsql => ?_, fun table htable hnothing =>
      (deleteSql_eq_error_iff htable).mpr (hsilent table htable hnothing)⟩
    obtain ⟨table, text, htable, htext, -, hleaves⟩ := exists_of_deleteSql_eq_ok hsql
    refine ⟨table, text, htable, htext, ?_⟩
    by_contra hblank
    have hnothing : q.SaysNothing := by
      intro l hl
      obtain ⟨t, ht, hinfix⟩ := hleaves l hl
      exact ⟨t, ht, by_contra fun h => hblank ⟨l, hl, t, ht, h, hinfix⟩⟩
    rw [(deleteSql_eq_error_iff htable).mpr (hsilent table htable hnothing)] at hsql
    cases hsql

/-- A group that compares with the empty text has a condition: the literal is not blank. -/
theorem deletesByCondition_emptyText :
    let q := build [.setFrom { table := some (.name ⟨"t"⟩) }, .addCondition .wheres .and
      (.group (build [.addCondition .wheres .and
        (.equal (.value (.identifier ⟨"id"⟩)) (.value (.string "")))]))]
    q.deleteSql = .ok "ALTER TABLE `t` DELETE WHERE (`id` = '')" ∧ q.DeletesByCondition := by
  intro q
  have hleaves : Predicate.leavesOfList q.wheres =
      [.value (.identifier ⟨"id"⟩), .value (.string "")] := rfl
  refine ⟨rfl, (deletesByCondition_iff q).2.2.mpr fun _ _ hnothing => ?_⟩
  obtain ⟨t, ht, hblank⟩ := hnothing (.value (.string "")) (by rw [hleaves]; simp)
  obtain rfl := Except.ok.inj ht
  exact absurd (hblank '\'' (by decide)) (by decide)

/-- A group of a condition without text is written as its parentheses, and is taken for a
condition. -/
theorem not_deletesByCondition_group :
    let q := build [.setFrom { table := some (.name ⟨"t"⟩) },
      .addCondition .wheres .and (.group (build [.addCondition .wheres .and (.raw "")]))]
    q.deleteSql = .ok "ALTER TABLE `t` DELETE WHERE ()" ∧ q.SaysNothing ∧
      ¬ q.DeletesByCondition := by
  intro q
  have hsql : q.deleteSql = .ok "ALTER TABLE `t` DELETE WHERE ()" := rfl
  have hleaves : Predicate.leavesOfList q.wheres = [.value (.raw "")] := rfl
  have hnothing : q.SaysNothing := by
    intro l hl
    rw [hleaves] at hl
    obtain rfl := List.mem_singleton.mp hl
    exact ⟨"", rfl, fun c hc => nomatch hc⟩
  refine ⟨hsql, hnothing, fun hdeletes => ?_⟩
  have hrefused := hdeletes.refusal "`t`" rfl hnothing
  rw [hsql] at hrefused
  cases hrefused

end Query

end FluentSql
