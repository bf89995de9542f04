import FluentSql.Client.Compiled
import FluentSql.Proofs.Rendered
import FluentSql.Query.Call
import FluentSql.Query.Count

/-! # Attached tables and the queries that name them

A text on the right of a membership operator stands for a table when one of that name is attached
by then (`Query.condition?_of_memberText?`).  What is decided there is decided by the calls on one
query, and the tables that are sent are those attached by the calls on the outermost query
(`Query.exists_table_iff`).  So the tables that a query names itself are always sent with it, also
when its rows are counted, and those that a nested query names are sent if the outermost
query has tables of these names too (`tablesTravel_iff`). -/

namespace FluentSql

/-! ### Names of tables in conditions -/

/-- The text that a side is, if it is one. -/
def Operand.text? : Operand → Option String
  | .value (.string text) => some text
  | _ => none

/-- The text that a condition looks up among the attached tables: the right side of a membership
operator. -/
def Condition.memberText? : Condition → Option String
  | .compare _ op second | .dictionary _ _ _ op second =>
      if op.isMembership then second.text? else none
  | .member _ _ values => values.text?
  | _ => none

theorem Operand.text?_eq_none_of_isList {o : Operand} (h : o.isList) : o.text? = none := by
  unfold text?
  split
  · cases h
  · rfl

namespace Query

variable {tables tables' : KeyMap ExternalTable} {s : Section} {c : Conjunction} {first : Operand}
  {op : Operator} {values : Operand} {name : String}

/-- The side that a text becomes: the name of the table of that name, if one is attached. -/
def nameOrText (tables : KeyMap ExternalTable) (name : String) : Operand :=
  if tables.contains name then .ofName name else .value (.string name)

theorem membership?_of_text? (h : values.text? = some name) :
    membership? tables c first op values =
      some (.compare c first op (nameOrText tables name)) := by
  unfold Operand.text? at h
  split at h
  · cases h
    rfl
  · cases h

theorem membership?_of_text?_eq_none (h : values.text? = none) :
    membership? tables c first op values = membership? tables' c first op values := by
  have hresolve : ∀ tables, resolveTable tables values = values := by
    intro tables
    unfold resolveTable
    split
    · cases h
    · rfl
  unfold membership?
  rw [hresolve, hresolve]

theorem comparison?_of_text?_eq_none (h : (if op.isMembership then values.text? else none) = none) :
    comparison? tables c first op values = comparison? tables' c first op values := by
  unfold comparison?
  by_cases hop : op.isMembership
  · rw [if_pos hop] at h ⊢
    rw [if_pos hop]
    exact membership?_of_text?_eq_none h
  · rw [if_neg hop, if_neg hop]

/-- A text on the right of a membership operator becomes a name exactly when a table of that name is
attached. -/
theorem condition?_of_memberText? {x : Condition} (h : x.memberText? = some name)
    (c : Conjunction) :
    ∃ first op, ∀ tables s,
      condition? tables s c x = some (.compare c first op (nameOrText tables name)) := by
  have hcomparison : ∀ {first op second},
      (if op.isMembership then Operand.text? second else none) = some name →
        ∀ tables, comparison? tables c first op second =
          some (.compare c first op (nameOrText tables name)) := by
    intro first op second h tables
    by_cases hop : op.isMembership
    · rw [if_pos hop] at h
      rw [comparison?, if_pos hop, membership?_of_text? h]
    · rw [if_neg hop] at h
      cases h
  cases x with
  | compare first op second => exact ⟨first, op, fun tables _ => hcomparison h tables⟩
  | member first op values => exact ⟨first, op, fun _ _ => membership?_of_text? h⟩
  | dictionary table field key op second => exact ⟨_, op, fun tables _ => hcomparison h tables⟩
  | equal | raw | range | group => cases h

/-- What any other condition becomes does not depend on the attached tables. -/
theorem condition?_of_memberText?_eq_none {x : Condition} (h : x.memberText? = none) :
    condition? tables s c x = condition? tables' s c x := by
  cases x with
  | compare first op second => exact comparison?_of_text?_eq_none h
  | equal first second =>
      refine comparison?_of_text?_eq_none ?_
      by_cases hlist : second.isList
      · rw [if_pos hlist]
        exact Operand.text?_eq_none_of_isList hlist
      · rw [if_neg hlist]
        rfl
  | member first op values => exact membership?_of_text?_eq_none h
  | dictionary table field key op second => exact comparison?_of_text?_eq_none h
  | raw | range | group => rfl

/-! ### The tables of a query -/

/-- What a call does to the attached tables. -/
def attachedBy (tables : KeyMap ExternalTable) : QueryCall → KeyMap ExternalTable
  | .attach t => tables.insert t.name t
  | _ => tables

theorem tables_call (q : Query) (k : QueryCall) : (q.call k).tables = attachedBy q.tables k := by
  cases k with
  | addCondition s c x =>
      rw [call, addCondition]
      split
      · cases s <;> rfl
      · rfl
  | addUnion other => cases other <;> rfl
  | _ => rfl

theorem tables_foldl_call (calls : List QueryCall) (q : Query) :
    (calls.foldl call q).tables = calls.foldl attachedBy q.tables := by
  induction calls generalizing q with
  | nil => rfl
  | cons k calls ih => rw [List.foldl_cons, ih, tables_call, List.foldl_cons]

/-- Each table is attached under its own name. -/
def NamedTables (tables : KeyMap ExternalTable) : Prop :=
  ∀ name t, tables.get? name = some t → t.name = name

theorem namedTables_attachedBy (h : NamedTables tables) (k : QueryCall) :
    NamedTables (attachedBy tables k) := by
  cases k with
  | attach t =>
      intro name u hu
      rw [attachedBy, KeyMap.get?_insert] at hu
      split at hu
      · rename_i hname
        rw [← Option.some.inj hu, hname]
      · exact h name u hu
  | _ => exact h

theorem contains_attachedBy (k : QueryCall) :
    (attachedBy tables k).contains name ↔
      tables.contains name ∨ ∃ t, k = .attach t ∧ t.name = name := by
  cases k with
  | attach t =>
      simp only [attachedBy, KeyMap.contains_insert, QueryCall.attach.injEq, exists_eq_left']
      rw [or_comm, @eq_comm _ t.name]
  | _ => simp [attachedBy]

theorem namedTables_foldl (calls : List QueryCall) (h : NamedTables tables) :
    NamedTables (calls.foldl attachedBy tables) := by
  induction calls generalizing tables with
  | nil => exact h
  | cons k calls ih => exact ih (namedTables_attachedBy h k)

/-- What is attached by a run of calls stays attached. -/
theorem contains_foldl (calls : List QueryCall) :
    (calls.foldl attachedBy tables).contains name ↔
      tables.contains name ∨ ∃ t, .attach t ∈ calls ∧ t.name = name := by
  induction calls generalizing tables with
  | nil => simp
  | cons k calls ih =>
      rw [List.foldl_cons, ih, contains_attachedBy, or_assoc]
      simp only [List.mem_cons, or_and_right, exists_or, eq_comm]

theorem tables_build (calls : List QueryCall) :
    (build calls).tables = calls.foldl attachedBy KeyMap.empty :=
  tables_foldl_call calls {}

theorem contains_tables_build {calls : List QueryCall} :
    (build calls).tables.contains name ↔ ∃ t, .attach t ∈ calls ∧ t.name = name := by
  rw [tables_build, contains_foldl]
  simp [KeyMap.contains]

/-- The names of the tables that are sent are those of the tables attached by the calls. -/
theorem exists_table_iff {calls : List QueryCall} {c : CompiledQuery}
    (hc : (build calls).compile = .ok c) :
    (∃ t ∈ c.tables, t.name = name) ↔ ∃ t, .attach t ∈ calls ∧ t.name = name := by
  have htables := (compile_eq_ok_iff.mp hc).2.1
  have hnamed : NamedTables (build calls).tables := by
    rw [tables_build]
    exact namedTables_foldl calls fun name t h => nomatch h
  rw [← contains_tables_build, htables]
  constructor
  · rintro ⟨t, ht, rfl⟩
    obtain ⟨key, hkey⟩ := KeyMap.mem_values_iff.mp ht
    rw [hnamed key t hkey, KeyMap.contains, hkey]
    rfl
  · intro hname
    obtain ⟨t, ht⟩ := Option.isSome_iff_exists.mp hname
    exact ⟨t, KeyMap.mem_values_iff.mpr ⟨name, ht⟩, hnamed name t ht⟩

/-! ### Names in nested queries -/

/-- One of the calls looks up a text that is the name of a table attached by then. -/
def Resolves (calls : List QueryCall) (name : String) : Prop :=
  ∃ before s c x after, calls = before ++ .addCondition s c x :: after ∧
    x.memberText? = some name ∧ (build before).tables.contains name

/-- The query that the calls `inner` build is part of the text of the one that `calls` build: it
is this query itself, or it is nested in it, or its conditions are taken over as a group. -/
inductive Renders : (calls inner : List QueryCall) → Prop
  | self (calls : List QueryCall) : Renders calls calls
  | nested {calls middle inner : List QueryCall}
      (hmem : build middle ∈ (build calls).rendered) (hinner : Renders middle inner) :
      Renders calls inner
  | group {calls middle inner : List QueryCall} {s : Section} {c : Conjunction}
      (hmem : .addCondition s c (.group (build middle)) ∈ calls)
      (hsome : (grouped? s c (build middle)).isSome) (hinner : Renders middle inner) :
      Renders calls inner

/-- Every table that a call names in the text of the query is sent with it. -/
def TablesTravel (calls : List QueryCall) (c : CompiledQuery) : Prop :=
  ∀ inner, Renders calls inner → ∀ name, Resolves inner name → ∃ t ∈ c.tables, t.name = name

/-- A name that is looked up with success is that of a table attached by an earlier call. -/
theorem exists_attach_of_resolves {calls : List QueryCall} (h : Resolves calls name) :
    ∃ t, .attach t ∈ calls ∧ t.name = name := by
  obtain ⟨before, s, c, x, after, rfl, -, hname⟩ := h
  obtain ⟨t, ht, rfl⟩ := contains_tables_build.mp hname
  exact ⟨t, List.mem_append_left _ ht, rfl⟩

theorem tables_countOf (q : Query) (column : Identifier) :
    (q.countOf column).tables = q.tables := by
  unfold countOf
  dsimp only
  split <;> rfl

/-- **Attached tables travel with the names that the outermost query gives them.**  The tables
that are sent with a query, or with the query that counts its rows, hold every table that a call on
the query itself names.  The text of each nested query is part of what is sent as well, but a
table that it names is sent exactly if the outermost query has one of this name too. -/
theorem tablesTravel_iff {calls : List QueryCall} {c : CompiledQuery}
    (hc : (build calls).compile = .ok c) :
    (∀ name, Resolves calls name → ∃ t ∈ c.tables, t.name = name) ∧
      (∀ column c', ((build calls).countOf column).compile = .ok c' → c'.tables = c.tables) ∧
      (∀ r ∈ (build calls).rendered, ∃ t, r.toSql = .ok t ∧ t.toList <:+: c.sql.toList) ∧
      (TablesTravel calls c ↔ ∀ inner, Renders calls inner → ∀ name, Resolves inner name →
        ∃ t, .attach t ∈ calls ∧ t.name = name) := by
  obtain ⟨hsql, htables, -⟩ := compile_eq_ok_iff.mp hc
  refine ⟨?_, ?_, ?_, ?_⟩
  · intro name hname
    exact (exists_table_iff hc).mpr (exists_attach_of_resolves hname)
  · intro column c' hc'
    rw [(compile_eq_ok_iff.mp hc').2.1, tables_countOf, htables]
  · intro r hr
    exact within_toSql hsql hr
  · unfold TablesTravel
    simp only [exists_table_iff hc]

/-- A table with one column of numbers. -/
def idTable : ExternalTable := { name := "ids", payload := .ofText "1\n" }

/-- Calls that attach a table and name it in a condition. -/
def idCalls : List QueryCall :=
  [.setFrom { table := some (.name ⟨"t"⟩) }, .attach idTable,
    .addCondition .wheres .and
      (.member (.value (.identifier ⟨"id"⟩)) .isIn (.value (.string "ids")))]

theorem build_idCalls : build idCalls =
    { fromClause := some { table := some (.name ⟨"t"⟩) }
      wheres := [.compare .and (.value (.identifier ⟨"id"⟩)) .isIn (.ofName "ids")]
      tables := KeyMap.empty.insert "ids" idTable } := rfl

theorem resolves_idCalls : Resolves idCalls "ids" :=
  ⟨[.setFrom { table := some (.name ⟨"t"⟩) }, .attach idTable], _, _, _, [], rfl, rfl, rfl⟩

/-- A table that is named by the query that it is attached to is sent. -/
theorem tablesTravel_attached :
    let c : CompiledQuery := { sql := "SELECT * FROM `t` WHERE `id` IN `ids`", tables := [idTable] }
    (build idCalls).compile = .ok c ∧ ∃ t ∈ c.tables, t.name = "ids" := by
  intro c
  have hc : (build idCalls).compile = .ok c := by
    rw [build_idCalls]
    rfl
  exact ⟨hc, (tablesTravel_iff hc).1 "ids" resolves_idCalls⟩

/-- A table that is attached to the query of a FROM clause is named in the text and not sent. -/
theorem not_tablesTravel_nested :
    let calls : List QueryCall := [.setFrom { table := some (.query (build idCalls)) }]
    let c : CompiledQuery := { sql := "SELECT * FROM (SELECT * FROM `t` WHERE `id` IN `ids`)" }
    (build calls).compile = .ok c ∧ Renders calls idCalls ∧ Resolves idCalls "ids" ∧
      ¬ TablesTravel calls c := by
  intro calls c
  have hcalls : build calls =
      { fromClause := some { table := some (.query (build idCalls)) } } := rfl
  have hc : (build calls).compile = .ok c := by
    rw [hcalls, build_idCalls]
    rfl
  have hmem : build idCalls ∈ (build calls).rendered := by
    rw [hcalls, rendered]
    simp [Column.renderedOfList, FromClause.renderedOfOption, FromClause.rendered,
      TableSource.renderedOfOption, TableSource.rendered, mem_rendered_self]
  have hrenders : Renders calls idCalls := .nested hmem (.self idCalls)
  refine ⟨hc, hrenders, resolves_idCalls, fun htravel => ?_⟩
  obtain ⟨t, ht, -⟩ := htravel idCalls hrenders "ids" resolves_idCalls
  cases ht

end Query

end FluentSql
