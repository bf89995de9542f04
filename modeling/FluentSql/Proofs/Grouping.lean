import FluentSql.Proofs.Attachment
import FluentSql.Proofs.CallOrder
import FluentSql.Proofs.Counting

/-! # Conditions in groups

The conditions of a group are those of a query of its own, which the calls of the group are made
on.  A run of conditions adds to its clause what each of them becomes, which depends on nothing of
the query but the attached tables (`Query.foldl_call_conditions`).  The query of a group has none.
So a group has the conditions that the same calls make where no table is attached, and it has those
that they make on the query itself exactly if none of them names a table that is attached to it
(`Query.groupsAlike_iff`). -/

namespace FluentSql

/-! ### Selections by two criteria -/

/-- Two selections from a list that keep the same elements are related element by element. -/
theorem forall₂_filterMap_iff {α β γ : Type} {R : β → γ → Prop} {f : α → Option β}
    {g : α → Option γ} (hsome : ∀ x, (f x).isSome = (g x).isSome) {xs : List α} :
    List.Forall₂ R (xs.filterMap f) (xs.filterMap g) ↔
      ∀ x ∈ xs, ∀ a b, f x = some a → g x = some b → R a b := by
  induction xs with
  | nil => simp
  | cons x xs ih =>
      have hx := hsome x
      rw [List.forall_mem_cons, ← ih]
      cases hf : f x with
      | none =>
          obtain hg : g x = none := by simpa [hf] using hx
          simp [hf, hg]
      | some a =>
          obtain ⟨b, hg⟩ : ∃ b, g x = some b := by
            rw [hf] at hx
            exact Option.isSome_iff_exists.mp hx.symm
          simp [hf, hg]

/-- Both sides of two conditions have the same texts, with the same operator between them and the
same conjunction. -/
structure Predicate.RendersAlike (p p' : Predicate) : Prop where
  first : p.first.toSql = p'.first.toSql
  operator : p.operator = p'.operator
  second : Operand.toSqlOrNothing p.second = Operand.toSqlOrNothing p'.second
  conjunction : p.conjunction = p'.conjunction

theorem Predicate.RendersAlike.toSql_eq {p p' : Predicate} (h : p.RendersAlike p') :
    p.toSql = p'.toSql := by
  obtain ⟨first, operator, second, conjunction⟩ := p
  obtain ⟨first', operator', second', conjunction'⟩ := p'
  obtain ⟨hfirst, rfl, hsecond, -⟩ := h
  rw [toSql, toSql, hfirst, hsecond]

theorem Predicate.toSqlList_eq_of_forall₂ {ps ps' : List Predicate}
    (h : List.Forall₂ RendersAlike ps ps') : toSqlList ps = toSqlList ps' := by
  induction h with
  | nil => rfl
  | cons hp _ ih => rw [toSqlList, toSqlList, hp.toSql_eq, hp.conjunction, ih]

namespace Query

variable {q : Query} {tables tables' : KeyMap ExternalTable} {s : Section} {c : Conjunction}

/-! ### Runs of conditions -/

/-- The query with other conditions in a clause. -/
def setConditions (q : Query) (s : Section) (ps : List Predicate) : Query :=
  match s with
  | .preWheres => { q with preWheres := ps }
  | .wheres => { q with wheres := ps }
  | .havings => { q with havings := ps }

theorem setConditions_conditions (q : Query) (s : Section) :
    q.setConditions s (q.conditions s) = q := by
  cases q
  cases s <;> rfl

theorem conditions_setConditions (q : Query) (s : Section) (ps : List Predicate) :
    (q.setConditions s ps).conditions s = ps := by
  cases s <;> rfl

theorem tables_setConditions (q : Query) (s : Section) (ps : List Predicate) :
    (q.setConditions s ps).tables = q.tables := by
  cases s <;> rfl

theorem setConditions_setConditions (q : Query) (s : Section) (ps ps' : List Predicate) :
    (q.setConditions s ps).setConditions s ps' = q.setConditions s ps' := by
  cases s <;> rfl

theorem pushCondition_eq (q : Query) (s : Section) (p : Predicate) :
    q.pushCondition s p = q.setConditions s (q.conditions s ++ [p]) := by
  cases s <;> rfl

/-- The calls that add conditions to a clause. -/
def conditionCalls (s : Section) (xs : List (Conjunction × Condition)) : List QueryCall :=
  xs.map fun x => .addCondition s x.1 x.2

/-- What conditions become, given the attached tables. -/
def predicates (tables : KeyMap ExternalTable) (s : Section)
    (xs : List (Conjunction × Condition)) : List Predicate :=
  xs.filterMap fun x => condition? tables s x.1 x.2

theorem predicates_cons (tables : KeyMap ExternalTable) (s : Section)
    (x : Conjunction × Condition) (xs : List (Conjunction × Condition)) :
    predicates tables s (x :: xs) =
      (condition? tables s x.1 x.2).toList ++ predicates tables s xs := by
  cases h : condition? tables s x.1 x.2 <;> simp [predicates, h]

/-- A condition adds what is recorded for it. -/
theorem addCondition_eq (q : Query) {s : Section} {c : Conjunction} {x : Condition}
    {p? : Option Predicate} (h : condition? q.tables s c x = p?) :
    q.addCondition s c x = q.setConditions s (q.conditions s ++ p?.toList) := by
  subst h
  rw [addCondition]
  cases condition? q.tables s c x with
  | none => rw [Option.toList_none, List.append_nil, setConditions_conditions]
  | some p => exact pushCondition_eq q s p

/-- A run of conditions adds what they become, and changes nothing else. -/
theorem foldl_call_conditions (s : Section) (xs : List (Conjunction × Condition)) (q : Query) :
    (conditionCalls s xs).foldl call q =
      q.setConditions s (q.conditions s ++ predicates q.tables s xs) := by
  induction xs generalizing q with
  | nil => simp [conditionCalls, predicates, setConditions_conditions]
  | cons x xs ih =>
      have hcalls : (conditionCalls s (x :: xs)).foldl call q =
          (conditionCalls s xs).foldl call (q.addCondition s x.1 x.2) := rfl
      rw [hcalls, ih, addCondition_eq q rfl, tables_setConditions, conditions_setConditions,
        setConditions_setConditions, List.append_assoc, predicates_cons]

/-- Whether a condition adds anything does not depend on the attached tables. -/
theorem isSome_condition? (x : Condition) :
    (condition? tables s c x).isSome = (condition? tables' s c x).isSome := by
  cases h : x.memberText? with
  | none => rw [condition?_of_memberText?_eq_none h]
  | some name =>
      obtain ⟨first, op, hx⟩ := condition?_of_memberText? h c
      rw [hx, hx, Option.isSome_some, Option.isSome_some]

/-! ### Groups -/

/-- What is recorded for a group, from the conditions of its own query. -/
theorem condition?_group (tables : KeyMap ExternalTable) (s : Section) (c : Conjunction)
    (ps : List Predicate) :
    condition? tables s c (.group (({} : Query).setConditions s ps)) =
      match ps with
      | [] => none
      | ps => some (.single c (.group ps)) := by
  cases s <;> cases ps <;> rfl

/-- A group of conditions is added as one entry if there are any. -/
theorem addCondition_group (q : Query) (s : Section) (c : Conjunction)
    (xs : List (Conjunction × Condition)) :
    q.addCondition s c (.group (build (conditionCalls s xs))) =
      if predicates KeyMap.empty s xs = [] then q
      else q.pushCondition s (.single c (.group (predicates KeyMap.empty s xs))) := by
  have hbuild : build (conditionCalls s xs) =
      ({} : Query).setConditions s (predicates KeyMap.empty s xs) := by
    rw [build, foldl_call_conditions]
    cases s <;> rfl
  rw [addCondition, hbuild, condition?_group]
  cases predicates KeyMap.empty s xs <;> rfl

theorem toSql_group (c : Conjunction) (ps : List Predicate) :
    (Predicate.single c (.group ps)).toSql = parenthesized <$> Predicate.listToSql ps := by
  rw [Predicate.single, Predicate.toSql, Operand.toSql, Operand.toSqlOrNothing,
    Predicate.listToSql]
  cases Predicate.toSqlList ps <;> rfl

/-- The conditions `xs`, as a group of the query, are those that the same calls make on the query
`copy` in place of its own: without any the query stays as it is, and otherwise it has one more
entry, with the text of these conditions in parentheses, written from the same texts. -/
structure GroupsAlike (q copy : Query) (s : Section) (c : Conjunction)
    (xs : List (Conjunction × Condition)) : Prop where
  none : ((conditionCalls s xs).foldl call (copy.setConditions s [])).conditions s = [] →
    q.addCondition s c (.group (build (conditionCalls s xs))) = q
  some : ∀ ps, ((conditionCalls s xs).foldl call (copy.setConditions s [])).conditions s = ps →
    ps ≠ [] → ∃ inside,
      q.addCondition s c (.group (build (conditionCalls s xs))) =
        q.pushCondition s (.single c (.group inside)) ∧
      (Predicate.single c (.group inside)).toSql = parenthesized <$> Predicate.listToSql ps ∧
      List.Forall₂ Predicate.RendersAlike inside ps

theorem conditions_foldl_emptied (copy : Query) (s : Section)
    (xs : List (Conjunction × Condition)) :
    ((conditionCalls s xs).foldl call (copy.setConditions s [])).conditions s =
      predicates copy.tables s xs := by
  rw [foldl_call_conditions, conditions_setConditions, conditions_setConditions,
    tables_setConditions, List.nil_append]

theorem predicates_eq_nil_iff {xs : List (Conjunction × Condition)} :
    predicates tables s xs = [] ↔ predicates tables' s xs = [] := by
  have hnone (x : Conjunction × Condition) :
      condition? tables s x.1 x.2 = Option.none ↔ condition? tables' s x.1 x.2 = Option.none := by
    rw [← Option.isNone_iff_eq_none, ← Option.isNone_iff_eq_none, ← Option.not_isSome,
      isSome_condition?, Option.not_isSome]
  simp only [predicates, List.filterMap_eq_nil_iff, hnone]

/-- A group is what its conditions are on the copy exactly if they have the same texts there. -/
theorem groupsAlike_iff_forall₂ {copy : Query} {xs : List (Conjunction × Condition)} :
    q.GroupsAlike copy s c xs ↔
      List.Forall₂ Predicate.RendersAlike (predicates KeyMap.empty s xs)
        (predicates copy.tables s xs) := by
  have hnil : predicates KeyMap.empty s xs = [] ↔ predicates copy.tables s xs = [] :=
    predicates_eq_nil_iff
  constructor
  · rintro ⟨-, hsome⟩
    by_cases hcopy : predicates copy.tables s xs = []
    · rw [hcopy, hnil.mpr hcopy]
      exact .nil
    · obtain ⟨inside, hentry, -, htexts⟩ := hsome _ (conditions_foldl_emptied copy s xs) hcopy
      rw [addCondition_group, if_neg (mt hnil.mp hcopy)] at hentry
      have hconditions := congrArg (conditions · s) hentry
      simp only [conditions_pushCondition, List.append_cancel_left_eq, List.cons.injEq,
        and_true] at hconditions
      cases hconditions
      exact htexts
  · intro htexts
    refine ⟨fun hcopy => ?_, fun ps hps hne => ?_⟩
    · rw [conditions_foldl_emptied] at hcopy
      rw [addCondition_group, if_pos (hnil.mpr hcopy)]
    · obtain rfl := (conditions_foldl_emptied copy s xs).symm.trans hps
      refine ⟨_, by rw [addCondition_group, if_neg (mt hnil.mp hne)], ?_, htexts⟩
      rw [toSql_group, Predicate.listToSql, Predicate.listToSql,
        Predicate.toSqlList_eq_of_forall₂ htexts]

/-! ### Names and texts -/

end Query

/-- A quoted name starts with a backtick, or with the `*` that stays bare. -/
theorem Identifier.exists_quoteChars_eq_cons (cs : List Char) :
    ∃ c rest, quoteChars cs = c :: rest ∧ (c = '*' ∨ c = backtick) := by
  have hname (cs : List Char) : ∃ c rest, quoteName cs = c :: rest ∧ (c = '*' ∨ c = backtick) := by
    unfold quoteName
    split
    · rename_i hstar
      exact ⟨'*', [], hstar, .inl rfl⟩
    · exact ⟨backtick, _, rfl, .inr rfl⟩
  have hpart (cs : List Char) : ∃ c rest, quotePart cs = c :: rest ∧ (c = '*' ∨ c = backtick) := by
    unfold quotePart
    split
    · rename_i name aliasName _
      obtain ⟨c, rest, hc, hstart⟩ := hname name
      exact ⟨c, _, by rw [hc]; rfl, hstart⟩
    · exact hname cs
  unfold quoteChars
  split
  · exact hpart cs
  · cases hpieces : pieces cs with
    | nil => exact absurd hpieces (List.splitOn_ne_nil _ _)
    | cons piece pieces =>
        obtain ⟨c, rest, hc, hstart⟩ := hpart (Text.trimChars piece)
        obtain ⟨more, hmore⟩ := exists_intercalate_eq_cons ['.'] c rest
          (pieces.map fun part => quotePart (Text.trimChars part))
        exact ⟨c, more, by rw [List.map_cons, hc, hmore], hstart⟩

/-- No text is written like a name. -/
theorem Identifier.quote_ne_quoted (text : String) (id : Identifier) :
    Text.quote text ≠ id.quoted := by
  obtain ⟨c, rest, hc, hstart⟩ := exists_quoteChars_eq_cons id.raw.toList
  intro h
  have hchars := congrArg String.toList h
  rw [Text.toList_quote, quoted, String.toList_ofList, hc] at hchars
  obtain ⟨rfl, -⟩ := List.cons.inj hchars
  revert hstart
  decide

namespace Query

variable {q : Query} {s : Section} {c : Conjunction} {xs : List (Conjunction × Condition)}

/-- Conditions have the same texts with and without attached tables exactly if none of them names
one. -/
theorem forall₂_predicates_iff {tables : KeyMap ExternalTable} :
    List.Forall₂ Predicate.RendersAlike (predicates KeyMap.empty s xs) (predicates tables s xs) ↔
      ∀ x ∈ xs, ∀ name, x.2.memberText? = some name → ¬ tables.contains name := by
  have hsome (x : Conjunction × Condition) :
      (condition? KeyMap.empty s x.1 x.2).isSome = (condition? tables s x.1 x.2).isSome :=
    isSome_condition? x.2
  rw [predicates, predicates, forall₂_filterMap_iff hsome]
  refine forall₂_congr fun x _ => ⟨fun h name hname hcontains => ?_, fun h a b ha hb => ?_⟩
  · obtain ⟨first, op, hx⟩ := condition?_of_memberText? hname x.1
    have hsecond := (h _ _ (hx KeyMap.empty s) (hx tables s)).second
    have hempty : nameOrText KeyMap.empty name = .value (.string name) := rfl
    have htable : nameOrText tables name = .ofName name := if_pos hcontains
    rw [hempty, htable, Predicate.compare, Predicate.compare] at hsecond
    exact Identifier.quote_ne_quoted name ⟨name⟩ (Except.ok.inj hsecond)
  · have hsame : condition? KeyMap.empty s x.1 x.2 = condition? tables s x.1 x.2 := by
      cases hname : x.2.memberText? with
      | none => exact condition?_of_memberText?_eq_none hname
      | some name =>
          obtain ⟨first, op, hx⟩ := condition?_of_memberText? hname x.1
          rw [hx, hx, nameOrText, nameOrText, if_neg (h name hname)]
          rfl
    rw [ha, hb] at hsame
    cases hsame
    exact ⟨rfl, rfl, rfl, rfl⟩

/-- **A group has the conditions that its calls make where no table is attached**, as one entry of
its clause in parentheses, and nothing else is changed.  They are the conditions that the same
calls make on the query itself exactly if no call puts the name of a table that is attached to it
on the right of a membership operator. -/
theorem groupsAlike_iff (q : Query) (s : Section) (c : Conjunction)
    (xs : List (Conjunction × Condition)) :
    q.GroupsAlike { q with tables := KeyMap.empty } s c xs ∧
      (q.GroupsAlike q s c xs ↔
        ∀ x ∈ xs, ∀ name, x.2.memberText? = some name → ¬ q.tables.contains name) := by
  refine ⟨?_, by rw [groupsAlike_iff_forall₂, forall₂_predicates_iff]⟩
  rw [groupsAlike_iff_forall₂, forall₂_predicates_iff]
  rintro x - name - ⟨⟩

/-- A text that names an attached table in a condition of the query is a literal in a group of
it. -/
theorem not_groupsAlike_attached :
    let q := build [.setFrom { table := some (.name ⟨"t"⟩) }, .attach idTable]
    let x : Condition :=
      .member (.value (.identifier ⟨"id"⟩)) .isIn (.value (.string "ids"))
    (q.addCondition .wheres .and x).toSql = .ok "SELECT * FROM `t` WHERE `id` IN `ids`" ∧
      (q.addCondition .wheres .and (.group (build [.addCondition .wheres .and x]))).toSql =
        .ok "SELECT * FROM `t` WHERE (`id` IN 'ids')" ∧
      ¬ q.GroupsAlike q .wheres .and [(.and, x)] := by
  intro q x
  have hnamed : q.addCondition .wheres .and x =
      { fromClause := some { table := some (.name ⟨"t"⟩) }
        wheres := [.compare .and (.value (.identifier ⟨"id"⟩)) .isIn (.ofName "ids")]
        tables := KeyMap.empty.insert "ids" idTable } := rfl
  have hgroup : q.addCondition .wheres .and (.group (build [.addCondition .wheres .and x])) =
      { fromClause := some { table := some (.name ⟨"t"⟩) }
        wheres := [.single .and (.group
          [.compare .and (.value (.identifier ⟨"id"⟩)) .isIn (.value (.string "ids"))])]
        tables := KeyMap.empty.insert "ids" idTable } := rfl
  refine ⟨by rw [hnamed]; rfl, by rw [hgroup]; rfl, fun halike => ?_⟩
  have hnames := forall₂_predicates_iff.mp (groupsAlike_iff_forall₂.mp halike)
  exact hnames (.and, x) (List.mem_singleton_self _) "ids" rfl rfl

end Query

end FluentSql
