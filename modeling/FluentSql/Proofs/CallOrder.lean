import FluentSql.Query.Call
import FluentSql.Sql.Select

/-! # The order of fluent calls

Each call on a query sets one part of it (`QueryCall.part`) and leaves the others as they are
(`Query.agreeIn_call_of_ne`).  What it makes of its part depends on that part alone, except that a
condition also looks at the attached tables (`Part.reads`, `Query.agreeIn_call`).  So a part of the
query after a run of calls is decided by those calls of the run that set what the part reads
(`Query.agreeIn_foldl_filter`), and two runs that differ only in how calls on different parts
are mixed build the same query (`Query.foldl_call_eq_of_sameByPart`). -/

namespace FluentSql

/-- A part of a query that calls can set. -/
inductive Part where
  | columns
  | fromClause
  | sample
  | arrayJoin
  | joins
  | conditions (s : Section)
  | groups
  | orders
  | limit
  | limitBy
  /-- The union, and the fault of a union that was given no query. -/
  | unions
  | siblings
  | format
  | tables
  | settings
  | cluster
deriving DecidableEq, Repr

/-- The part that a call sets. -/
def QueryCall.part : QueryCall → Part
  | select _ | addSelect _ | addSelectDictionary _ _ _ _ => .columns
  | setFrom _ | setAlias _ | setFinal _ => .fromClause
  | setSample _ => .sample
  | setArrayJoin _ _ => .arrayJoin
  | addJoin _ | addJoinUsing _ _ _ _ => .joins
  | addCondition s _ _ => .conditions s
  | groupBy _ | addGroupBy _ => .groups
  | addOrder _ _ _ => .orders
  | setLimit _ => .limit
  | setLimitBy _ _ => .limitBy
  | addUnion _ => .unions
  | addSibling _ => .siblings
  | setFormat _ => .format
  | attach _ => .tables
  | setSetting _ _ => .settings
  | onCluster _ => .cluster

/-- Whether calls that set the part `p` read the part `p'`. -/
def Part.reads (p p' : Part) : Bool :=
  match p with
  | .conditions s => p' = .conditions s || p' = .tables
  | p => p' = p

theorem Part.reads_self (p : Part) : p.reads p := by
  cases p <;> simp [reads]

theorem Part.reads_trans {p p' p'' : Part} (h : p.reads p') (h' : p'.reads p'') : p.reads p'' := by
  cases p with
  | conditions s =>
      have hcases : p' = .conditions s ∨ p' = .tables := by simpa [reads] using h
      rcases hcases with rfl | rfl
      · exact h'
      · obtain rfl : p'' = .tables := by simpa [reads] using h'
        exact h
  | _ =>
      obtain rfl := of_decide_eq_true h
      exact h'

namespace Query

/-- The queries `a` and `b` agree in a part. -/
def AgreeIn (a b : Query) : Part → Prop
  | .columns => a.columns = b.columns
  | .fromClause => a.fromClause = b.fromClause
  | .sample => a.sample = b.sample
  | .arrayJoin => a.arrayJoin = b.arrayJoin
  | .joins => a.joins = b.joins
  | .conditions s => a.conditions s = b.conditions s
  | .groups => a.groups = b.groups
  | .orders => a.orders = b.orders
  | .limit => a.limit = b.limit
  | .limitBy => a.limitBy = b.limitBy
  | .unions => a.unions = b.unions ∧ a.fault = b.fault
  | .siblings => a.siblings = b.siblings
  | .format => a.format = b.format
  | .tables => a.tables = b.tables
  | .settings => a.settings = b.settings
  | .cluster => a.cluster = b.cluster

variable {a b c : Query} {p : Part}

theorem AgreeIn.refl (a : Query) (p : Part) : a.AgreeIn a p := by
  cases p with
  | unions => exact ⟨rfl, rfl⟩
  | _ => exact rfl

theorem AgreeIn.symm (h : a.AgreeIn b p) : b.AgreeIn a p := by
  cases p with
  | unions => exact ⟨h.1.symm, h.2.symm⟩
  | _ => exact Eq.symm h

theorem AgreeIn.trans (h : a.AgreeIn b p) (h' : b.AgreeIn c p) : a.AgreeIn c p := by
  cases p with
  | unions => exact ⟨h.1.trans h'.1, h.2.trans h'.2⟩
  | _ => exact Eq.trans h h'

/-- A query is made of its parts. -/
theorem eq_of_agreeIn (h : ∀ p, a.AgreeIn b p) : a = b := by
  have hcolumns := h .columns
  have hfrom := h .fromClause
  have hsample := h .sample
  have harray := h .arrayJoin
  have hjoins := h .joins
  have hpre := h (.conditions .preWheres)
  have hwheres := h (.conditions .wheres)
  have hhavings := h (.conditions .havings)
  have hgroups := h .groups
  have horders := h .orders
  have hlimit := h .limit
  have hlimitBy := h .limitBy
  have hunions := h .unions
  have hsiblings := h .siblings
  have hformat := h .format
  have htables := h .tables
  have hsettings := h .settings
  have hcluster := h .cluster
  cases a
  cases b
  simp only [AgreeIn, conditions] at *
  simp_all

/-! ### One call -/

theorem agreeIn_pushCondition_of_ne (q : Query) {s : Section} (c : Predicate)
    (h : .conditions s ≠ p) : (q.pushCondition s c).AgreeIn q p := by
  cases p with
  | conditions t => cases s <;> cases t <;> simp_all [AgreeIn, conditions, pushCondition]
  | _ => cases s <;> simp [AgreeIn, pushCondition]

/-- A call leaves all parts but its own as they are. -/
theorem agreeIn_call_of_ne (q : Query) {k : QueryCall} (h : k.part ≠ p) :
    (q.call k).AgreeIn q p := by
  cases k with
  | addCondition s c x =>
      rw [call, addCondition]
      split
      · exact agreeIn_pushCondition_of_ne q _ h
      · exact .refl q p
  | addUnion other =>
      cases other <;> cases p <;> simp_all [QueryCall.part, AgreeIn, call, addUnion, conditions]
  | _ =>
      cases p <;> simp_all [QueryCall.part, AgreeIn, call, conditions, select, addSelect,
        addSelectDictionary, setFrom, setAlias, setFinal, setSample, setArrayJoin, addJoin,
        addJoinUsing, groupBy, addGroupBy, addOrder, setLimit, setLimitBy, addSibling, setFormat,
        attach, setSetting, onCluster]

theorem conditions_pushCondition (q : Query) (s : Section) (c : Predicate) :
    (q.pushCondition s c).conditions s = q.conditions s ++ [c] := by
  cases s <;> rfl

/-- What a call makes of its part depends on what calls on this part read. -/
theorem agreeIn_call {k : QueryCall} (h : ∀ p, k.part.reads p → a.AgreeIn b p) :
    (a.call k).AgreeIn (b.call k) k.part := by
  have hown := h k.part k.part.reads_self
  cases k with
  | addCondition s c x =>
      have htables : a.tables = b.tables := h .tables (by simp [QueryCall.part, Part.reads])
      have hconditions : a.conditions s = b.conditions s := hown
      rw [call, call, addCondition, addCondition, htables]
      split
      · simp only [QueryCall.part, AgreeIn, conditions_pushCondition, hconditions]
      · exact hown
  | addUnion other =>
      obtain ⟨hunions, hfault⟩ := hown
      cases other with
      | none => exact ⟨hunions, by simp only [call, addUnion, hfault]⟩
      | some other => exact ⟨by simp only [call, addUnion, hunions], hfault⟩
  | _ =>
      simp only [QueryCall.part, AgreeIn] at hown
      simp only [QueryCall.part, AgreeIn, call, select, addSelect, addSelectDictionary, setFrom,
        setAlias, setFinal, setSample, setArrayJoin, addJoin, addJoinUsing, groupBy, addGroupBy,
        addOrder, setLimit, setLimitBy, addSibling, setFormat, attach, setSetting, onCluster, hown]

/-! ### Runs of calls -/

/-- Calls on parts that `p` does not read do not matter for what `p` reads. -/
theorem agreeIn_foldl_filter (calls : List QueryCall) :
    ∀ {a b : Query}, (∀ p', p.reads p' → a.AgreeIn b p') → ∀ p', p.reads p' →
      (calls.foldl call a).AgreeIn ((calls.filter fun k => p.reads k.part).foldl call b) p' := by
  induction calls with
  | nil => exact fun h => h
  | cons k calls ih =>
      intro a b h
      by_cases hk : p.reads k.part
      · rw [List.filter_cons, if_pos hk]
        refine ih fun p' hp' => ?_
        by_cases hne : k.part = p'
        · subst hne
          exact agreeIn_call fun p'' hp'' => h p'' (Part.reads_trans hk hp'')
        · exact (agreeIn_call_of_ne a hne).trans
            ((h p' hp').trans (agreeIn_call_of_ne b hne).symm)
      · rw [List.filter_cons, if_neg hk]
        refine ih fun p' hp' => ?_
        have hne : k.part ≠ p' := by
          rintro rfl
          exact hk hp'
        exact (agreeIn_call_of_ne a hne).trans (h p' hp')

end Query

/-- Two runs have the same calls on each part in the same order, and the calls that attach tables
are mixed in the same way with the conditions of each clause. -/
structure SameByPart (calls calls' : List QueryCall) : Prop where
  parts : ∀ p, calls.filter (·.part = p) = calls'.filter (·.part = p)
  tables : ∀ s, calls.filter (fun k => k.part = .tables ∨ k.part = .conditions s) =
    calls'.filter (fun k => k.part = .tables ∨ k.part = .conditions s)

theorem SameByPart.filter_reads {calls calls' : List QueryCall} (h : SameByPart calls calls')
    (p : Part) :
    calls.filter (fun k => p.reads k.part) = calls'.filter fun k => p.reads k.part := by
  cases p with
  | conditions s =>
      have hreads : (fun k : QueryCall => (Part.conditions s).reads k.part) =
          fun k => decide (k.part = .tables ∨ k.part = .conditions s) := by
        funext k
        simp [Part.reads, Bool.or_comm]
      rw [hreads]
      exact h.tables s
  | _ => exact h.parts _

/-- **The order of calls on different parts does not matter.**  Two runs with the same calls on each
part, in the same order for each part, make the same query of a query, if the attached tables come
in the same order as seen from the conditions, which look their names up. -/
theorem Query.foldl_call_eq_of_sameByPart {calls calls' : List QueryCall}
    (h : SameByPart calls calls') (q : Query) : calls.foldl call q = calls'.foldl call q := by
  refine eq_of_agreeIn fun p => ?_
  have hcalls := agreeIn_foldl_filter calls (fun p' _ => AgreeIn.refl q p') p p.reads_self
  have hcalls' := agreeIn_foldl_filter calls' (fun p' _ => AgreeIn.refl q p') p p.reads_self
  rw [h.filter_reads p] at hcalls
  exact hcalls.trans hcalls'.symm

section Mixed

variable (ids : ExternalTable) (inIds : Condition)

/-- Calls in the order of the clauses they are about. -/
def clauseByClause : List QueryCall :=
  [.setFrom { table := some (.name ⟨"t"⟩) }, .setAlias ⟨"x"⟩, .addCondition .havings .and inIds,
    .attach ids, .addCondition .wheres .or inIds, .addUnion none, .addUnion (some {}),
    .setLimit { count := 1 }]

/-- The same calls, mixed. -/
def mixed : List QueryCall :=
  [.addUnion none, .addCondition .havings .and inIds, .setLimit { count := 1 }, .attach ids,
    .setFrom { table := some (.name ⟨"t"⟩) }, .addUnion (some {}), .addCondition .wheres .or inIds,
    .setAlias ⟨"x"⟩]

theorem sameByPart_mixed : SameByPart (clauseByClause ids inIds) (mixed ids inIds) where
  parts p := by
    cases p with
    | conditions s => cases s <;> rfl
    | _ => rfl
  tables s := by cases s <;> rfl

/-- The alias still comes after the table it renames, and the table `ids` is attached after the
condition of HAVING is added and before the one of WHERE is. -/
theorem foldl_call_mixed :
    let ids : ExternalTable :=
      { name := "ids", payload := .ofText "1", columns := [("k", "UInt8")] }
    let inIds : Condition := .member (.ofName "k") .isIn (.value (.string "ids"))
    (clauseByClause ids inIds).foldl Query.call {} = (mixed ids inIds).foldl Query.call {} := by
  intro ids inIds
  exact Query.foldl_call_eq_of_sameByPart (sameByPart_mixed ids inIds) {}

end Mixed

end FluentSql
