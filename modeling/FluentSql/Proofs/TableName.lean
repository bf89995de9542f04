import FluentSql.Proofs.Attachment
import FluentSql.Proofs.CallOrder
import FluentSql.Proofs.NameList

/-! # Names of attached tables as they are written

A condition that looks up the name of an attached table is recorded with an identifier of that
text.  An identifier has a structure of its own, so what is written is a single name in backticks
exactly if the name of the table has nothing of this structure (`Identifier.isRead_quoted_iff`): no
dot, no alias separator, and it is not a lone `*`.  Any other table is sent under a name that the
text does not show (`Query.namesTable_iff`). -/

namespace FluentSql

namespace Query

variable {q : Query} {name : String}

/-! ### Attached tables and later calls -/

/-- A table is attached under its own name. -/
def HasTable (q : Query) (name : String) : Prop :=
  ∃ t, q.tables.get? name = some t ∧ t.name = name

theorem hasTable_attach (q : Query) (t : ExternalTable) : (q.attach t).HasTable t.name :=
  ⟨t, by rw [attach, KeyMap.get?_insert, if_pos rfl], rfl⟩

/-- No call takes a table away, though another one of the same name may replace it. -/
theorem HasTable.call (h : q.HasTable name) (k : QueryCall) : (q.call k).HasTable name := by
  unfold HasTable
  rw [tables_call]
  cases k with
  | attach t =>
      rw [attachedBy, KeyMap.get?_insert]
      split
      · rename_i hname
        exact ⟨t, rfl, hname.symm⟩
      · exact h
  | _ => exact h

theorem HasTable.foldl_call (h : q.HasTable name) (calls : List QueryCall) :
    (calls.foldl Query.call q).HasTable name := by
  induction calls generalizing q with
  | nil => exact h
  | cons k calls ih => exact ih (h.call k)

theorem HasTable.exists_mem_tables (h : q.HasTable name) {k : CompiledQuery}
    (hk : q.compile = .ok k) : ∃ t ∈ k.tables, t.name = name := by
  obtain ⟨t, ht, hname⟩ := h
  rw [(compile_eq_ok_iff.mp hk).2.1]
  exact ⟨t, KeyMap.mem_values_iff.mpr ⟨name, ht⟩, hname⟩

/-! ### Conditions that name them -/

/-- The condition is recorded as a relation to a single name in backticks, which reads back as the
name of a table that is sent. -/
structure NamesTable (q : Query) (s : Section) (c : Conjunction) (x : Condition) (name : String) :
    Prop where
  operand : ∃ first op second text,
    q.addCondition s c x = q.pushCondition s (.compare c first op second) ∧
      second.toSql = .ok text ∧ NamePart.IsRead text.toList (.name name)
  sent : ∀ k, (q.addCondition s c x).compile = .ok k → ∃ t ∈ k.tables, t.name = name

variable {s : Section} {c : Conjunction} {x : Condition}

theorem HasTable.addCondition_eq (h : q.HasTable name) (hx : x.memberText? = some name)
    (s : Section) (c : Conjunction) :
    ∃ first op, q.addCondition s c x = q.pushCondition s (.compare c first op (.ofName name)) := by
  obtain ⟨t, ht, -⟩ := h
  have hcontains : q.tables.contains name := by
    rw [KeyMap.contains, ht]
    rfl
  obtain ⟨first, op, hcondition⟩ := condition?_of_memberText? hx c
  refine ⟨first, op, ?_⟩
  rw [addCondition, hcondition, nameOrText, if_pos hcontains]

theorem toSql_ofName (name : String) :
    (Operand.ofName name).toSql = .ok (Identifier.quoted ⟨name⟩) := by
  rw [Operand.ofName, Operand.toSql]
  rfl

/-- A condition that looks up the name of an attached table names it in the text exactly if that is
one name. -/
theorem HasTable.namesTable_iff_isOneName (h : q.HasTable name) (hx : x.memberText? = some name) :
    q.NamesTable s c x name ↔ Identifier.IsOneName ⟨name⟩ := by
  obtain ⟨first, op, hadd⟩ := h.addCondition_eq hx s c
  rw [← Identifier.isRead_quoted_iff]
  constructor
  · rintro ⟨⟨first', op', second, text, hadd', htext, hread⟩, -⟩
    -- both are the condition that was added last
    have hconditions := congrArg (conditions · s) (hadd.symm.trans hadd')
    simp only [conditions_pushCondition, List.append_cancel_left_eq, List.cons.injEq, and_true,
      Predicate.compare, Predicate.mk.injEq, Option.some.injEq] at hconditions
    obtain ⟨-, -, rfl, -⟩ := hconditions
    obtain rfl := Except.ok.inj (htext.symm.trans (toSql_ofName name))
    exact hread
  · intro hread
    exact ⟨⟨first, op, _, _, hadd, toSql_ofName name, hread⟩,
      fun k hk => (h.call (.addCondition s c x)).exists_mem_tables hk⟩

/-- **A name of an attached table is written as that name exactly if it is one name.**  Whatever
calls are made after the table is attached, a condition with its name on the right of a membership
operator is recorded with an identifier of that text, and a table of this name is sent.  What is
written is a single name in backticks that reads back as the name of the table, unless this name
has a dot or an alias separator in it, or is a lone `*`. -/
theorem namesTable_iff (q : Query) (t : ExternalTable) (calls : List QueryCall) (s : Section)
    (c : Conjunction) {x : Condition} (hx : x.memberText? = some t.name) :
    let q' := calls.foldl call (q.attach t)
    (∃ first op, q'.addCondition s c x = q'.pushCondition s (.compare c first op (.ofName t.name)) ∧
      (Operand.ofName t.name).toSql = .ok (Identifier.quoted ⟨t.name⟩)) ∧
    (∀ k, (q'.addCondition s c x).compile = .ok k → ∃ u ∈ k.tables, u.name = t.name) ∧
    (q'.NamesTable s c x t.name ↔ Identifier.IsOneName ⟨t.name⟩) := by
  intro q'
  have htable : q'.HasTable t.name := (hasTable_attach q t).foldl_call calls
  obtain ⟨first, op, hadd⟩ := htable.addCondition_eq hx s c
  exact ⟨⟨first, op, hadd, toSql_ofName t.name⟩,
    fun k hk => (htable.call (.addCondition s c x)).exists_mem_tables hk,
    htable.namesTable_iff_isOneName hx⟩

/-- A name with blanks and a backtick in it is one name. -/
theorem namesTable_blank_backtick :
    let t : ExternalTable := { name := "my `ids", payload := .ofText "1\n" }
    let x : Condition :=
      .compare (.value (.identifier ⟨"id"⟩)) .globalNotIn (.value (.string "my `ids"))
    x.memberText? = some t.name ∧ (({} : Query).attach t).NamesTable .havings .or x t.name := by
  intro t x
  have hx : x.memberText? = some t.name := rfl
  refine ⟨hx, (namesTable_iff {} t [] .havings .or hx).2.2.mpr ⟨by decide, ?_, by decide⟩⟩
  exact (Identifier.cutAlias?_eq_none_iff _).mp (by decide)

/-- A table with a dot in its name is sent under this name, and the text names another one. -/
theorem not_namesTable_dot :
    let q := build [.setFrom { table := some (.name ⟨"t"⟩) },
      .attach { name := "ids.csv", payload := .ofText "1\n" }]
    let x : Condition :=
      .member (.value (.identifier ⟨"id"⟩)) .isIn (.value (.string "ids.csv"))
    (q.addCondition .wheres .and x).compile =
        .ok { sql := "SELECT * FROM `t` WHERE `id` IN `ids`.`csv`"
              tables := [{ name := "ids.csv", payload := .ofText "1\n" }] } ∧
      ¬ q.NamesTable .wheres .and x "ids.csv" := by
  intro q x
  have hadd : q.addCondition .wheres .and x =
      { fromClause := some { table := some (.name ⟨"t"⟩) }
        wheres := [.compare .and (.value (.identifier ⟨"id"⟩)) .isIn (.ofName "ids.csv")]
        tables := KeyMap.empty.insert "ids.csv"
          { name := "ids.csv", payload := .ofText "1\n" } } := rfl
  refine ⟨by rw [hadd]; rfl, fun hnames => ?_⟩
  have htable : q.HasTable "ids.csv" := ⟨_, rfl, rfl⟩
  have hone := (htable.namesTable_iff_isOneName rfl).mp hnames
  exact hone.no_dot (by decide)

end Query

end FluentSql
