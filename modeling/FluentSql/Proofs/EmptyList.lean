import FluentSql.Proofs.Deletion
import FluentSql.Proofs.FilterFamily
import FluentSql.Proofs.Linking

/-! # Membership of empty lists

The membership of a side in an empty list is false, and its complement is true.  Calls record a
relation that never holds for the one and nothing for the other.  So a clause means what those calls
mean that record something.  The calls for complements of empty lists count for true as long as
leaving them out changes no run of AND, and for unrelated assertions only then
(`Query.keepsMeaning_of_calls`). -/

namespace FluentSql

/-! ### Assertions -/

/-- What a condition says, whatever links it to others. -/
structure Assertion where
  first : Operand
  operator : Option Operator := none
  second : Option Operand := none

namespace Assertion

/-- A relation between two sides. -/
def relation (first : Operand) (op : Operator) (second : Operand) : Assertion :=
  ⟨first, some op, some second⟩

/-- A relation that never holds. -/
def never : Assertion := relation (.value (.int 0)) .eq (.value (.int 1))

/-- The condition that says it. -/
def predicate (c : Conjunction) (a : Assertion) : Predicate :=
  ⟨a.first, a.operator, a.second, c⟩

/-- The assertion is about the elements of an empty list. -/
def isOverNothing (a : Assertion) : Bool :=
  a.operator.any Operator.isMembership && a.second.any fun o => o.elements?.any List.isEmpty

/-- The assertion is about the complement of an empty list. -/
def excludesNothing (a : Assertion) : Bool :=
  a.isOverNothing && a.operator.any Operator.isNegated

/-- What the right side of a membership operator stands for: the elements of a list, or the attached
table of that name. -/
def members (tables : KeyMap ExternalTable) (o : Operand) : Operand :=
  match o.elements? with
  | some elements => .tuple ⟨elements⟩
  | none => Query.resolveTable tables o

/-- The assertion with what its right side stands for. -/
def resolved (tables : KeyMap ExternalTable) (a : Assertion) : Assertion :=
  if a.operator.any Operator.isMembership then { a with second := a.second.map (members tables) }
  else a

/-- The assertion that is recorded, if any is. -/
def recorded? (tables : KeyMap ExternalTable) (a : Assertion) : Option Assertion :=
  if a.excludesNothing then none
  else if a.isOverNothing then some never
  else some (a.resolved tables)

theorem isSome_recorded? (tables : KeyMap ExternalTable) (a : Assertion) :
    (a.recorded? tables).isSome = !a.excludesNothing := by
  unfold recorded?
  cases a.excludesNothing <;> cases a.isOverNothing <;> rfl

/-- Only what has no operator is recorded without one, and then as it is. -/
theorem eq_of_recorded? {tables : KeyMap ExternalTable} {a b : Assertion}
    (h : a.recorded? tables = some b) (hb : b.operator = none) : b = a := by
  unfold recorded? at h
  split_ifs at h with _ hnothing
  · obtain rfl := Option.some.inj h
    cases hb
  · obtain rfl := Option.some.inj h
    unfold resolved at hb ⊢
    split_ifs at hb ⊢ with hmembership
    · rw [hb] at hmembership
      cases hmembership
    · rfl

/-- What is recorded for a comparison is what is recorded of the relation. -/
theorem comparison?_eq (tables : KeyMap ExternalTable) (c : Conjunction) (first : Operand)
    (op : Operator) (second : Operand) :
    Query.comparison? tables c first op second =
      ((relation first op second).recorded? tables).map (predicate c) := by
  cases hop : op.isMembership with
  | false =>
      simp [Query.comparison?, recorded?, excludesNothing, isOverNothing, resolved, relation, hop,
        predicate, Predicate.compare]
  | true =>
      rw [Query.comparison?, if_pos hop, Query.membership?]
      cases helements : second.elements? with
      | none =>
          simp [recorded?, excludesNothing, isOverNothing, resolved, members, relation, hop,
            helements, predicate, Predicate.compare]
      | some elements =>
          cases elements with
          | nil =>
              cases hneg : op.isNegated <;>
                simp [recorded?, excludesNothing, isOverNothing, relation, hop, helements, hneg,
                  predicate, never, Predicate.never, Predicate.compare]
          | cons =>
              simp [recorded?, excludesNothing, isOverNothing, resolved, members, relation, hop,
                helements, predicate, Predicate.compare]

end Assertion

/-- What a filter is a call for. -/
def Filter.assertion : Filter → Assertion
  | base first op second => .relation first.asColumn op second.asValue
  | eq first second =>
      .relation first.asColumn (if second.asValue.isList then .isIn else .eq) second.asValue
  | raw sql => ⟨.value (.raw sql), none, none⟩
  | isIn first values => .relation first.asColumn .isIn values.asValue
  | notIn first values => .relation first.asColumn .notIn values.asValue
  | globalIn first values => .relation first.asColumn .globalIn values.asValue
  | globalNotIn first values => .relation first.asColumn .globalNotIn values.asValue
  | between first low high =>
      .relation first.asColumn .between (.predicate (.bounds low.asValue high.asValue))
  | notBetween first low high =>
      .relation first.asColumn .notBetween (.predicate (.bounds low.asValue high.asValue))
  | betweenColumns first low high =>
      .relation first.asColumn .between (.predicate (.bounds low.asColumn high.asColumn))
  | notBetweenColumns first low high =>
      .relation first.asColumn .notBetween (.predicate (.bounds low.asColumn high.asColumn))
  | dictionary name field key op second =>
      .relation (.value (.raw (dictionaryLookup name field key))) op second.asValue

theorem Filter.predicate?_eq (tables : KeyMap ExternalTable) (c : Conjunction) (f : Filter) :
    f.predicate? tables c = (f.assertion.recorded? tables).map (Assertion.predicate c) := by
  cases f with
  | raw => rfl
  | eq first second =>
      rw [assertion, ← Assertion.comparison?_eq, predicate?]
      cases second.asValue.isList <;> rfl
  | _ => rw [assertion, ← Assertion.comparison?_eq]; rfl

/-- Whatever is recorded for a filter has a text, unless this is an empty piece of SQL. -/
theorem Filter.not_isSilent {f : Filter} (hf : f ≠ .raw "") {tables : KeyMap ExternalTable}
    {a : Assertion} (ha : f.assertion.recorded? tables = some a) (c : Conjunction) :
    ¬ (a.predicate c).isSilent := by
  intro hsilent
  rw [Assertion.predicate, Predicate.isSilent, Bool.and_eq_true, Bool.and_eq_true,
    Option.isNone_iff_eq_none] at hsilent
  obtain ⟨⟨hoperator, hfirst⟩, -⟩ := hsilent
  obtain rfl := Assertion.eq_of_recorded? ha hoperator
  cases f with
  | raw sql => exact hf (by simpa [assertion, Operand.isSilent] using hfirst)
  | _ => cases hoperator

/-! ### Truth values -/

/-- A truth value for each assertion. -/
structure Valuation where
  holds : Assertion → Prop
  not_holds_never : ¬ holds .never

/-- The filter holds.  No element of an empty list is equal to anything. -/
def Filter.Holds (v : Valuation) (tables : KeyMap ExternalTable) (f : Filter) : Prop :=
  if f.assertion.isOverNothing then f.assertion.operator.any Operator.isNegated = true
  else v.holds (f.assertion.resolved tables)

/-- The condition holds. -/
def Predicate.Holds (v : Valuation) (p : Predicate) : Prop :=
  v.holds ⟨p.first, p.operator, p.second⟩

theorem Filter.ifPresent_recorded? (v : Valuation) (tables : KeyMap ExternalTable) (f : Filter) :
    IfPresent v.holds (f.assertion.recorded? tables) ↔ f.Holds v tables := by
  unfold Holds Assertion.recorded? Assertion.excludesNothing
  cases f.assertion.isOverNothing with
  | false => rfl
  | true =>
      cases f.assertion.operator.any Operator.isNegated with
      | false => exact iff_of_false v.not_holds_never Bool.false_ne_true
      | true => exact iff_of_true trivial rfl

/-! ### Calls and conditions -/

namespace Query

variable {q : Query} {s : Section} {calls : List (Conjunction × Filter)}

/-- The conditions of a clause with no others than those of the calls. -/
def conditionsOf (q : Query) (s : Section) (calls : List (Conjunction × Filter)) :
    List Predicate :=
  ((q.setConditions s []).filterAll s (calls.map fun k => .single k.1 k.2)).conditions s

/-- The conditions hold. -/
def ConditionsHold (v : Valuation) (ps : List Predicate) : Prop :=
  HoldTogether (Predicate.Holds v) (ps.map fun p => (p.conjunction, p))

/-- The clause has the truth value of the calls, whatever the assertions are. -/
def KeepsMeaning (q : Query) (s : Section) (calls : List (Conjunction × Filter)) : Prop :=
  ∀ v : Valuation,
    ConditionsHold v (q.conditionsOf s calls) ↔ HoldTogether (Filter.Holds v q.tables) calls

/-- What the calls record. -/
def recordings (q : Query) (calls : List (Conjunction × Filter)) :
    List (Conjunction × Option Assertion) :=
  calls.map fun k => (k.1, k.2.assertion.recorded? q.tables)

theorem predicates_single (tables : KeyMap ExternalTable) (calls : List (Conjunction × Filter)) :
    FilterCall.predicates tables (calls.map fun k => .single k.1 k.2) =
      calls.filterMap fun k => k.2.predicate? tables k.1 := by
  induction calls with
  | nil => rfl
  | cons k calls ih =>
      rw [List.map_cons, FilterCall.predicates, ih, FilterCall.predicate?]
      cases hk : k.2.predicate? tables k.1 <;> simp [hk]

theorem conditionsOf_eq (q : Query) (s : Section) (calls : List (Conjunction × Filter)) :
    q.conditionsOf s calls =
      (present (q.recordings calls)).map fun e => e.2.predicate e.1 := by
  rw [conditionsOf, filterAll_eq_setConditions, conditions_setConditions, conditions_setConditions,
    tables_setConditions, List.nil_append, predicates_single, present, recordings,
    List.filterMap_map, List.map_filterMap]
  refine List.filterMap_congr fun k _ => ?_
  rw [Filter.predicate?_eq]
  cases hrecorded : k.2.assertion.recorded? q.tables <;> simp [hrecorded]

/-- The clause means what the calls mean exactly if what they record can go without the rest. -/
theorem keepsMeaning_iff :
    q.KeepsMeaning s calls ↔ ∀ v : Valuation, HoldTogether v.holds (present (q.recordings calls)) ↔
      HoldTogether (IfPresent v.holds) (q.recordings calls) := by
  refine forall_congr' fun v => iff_congr ?_ ?_
  · rw [conditionsOf_eq, ConditionsHold, List.map_map]
    exact holdTogether_map (g := fun e => Assertion.predicate e.1 e.2) (fun _ => Iff.rfl) _
  · exact (holdTogether_map (fun k => k.2.ifPresent_recorded? v q.tables) calls).symm

/-- What is left out is what the calls for complements of empty lists record. -/
theorem keepsRuns_recordings :
    KeepsRuns Option.isSome (q.recordings calls) ↔
      KeepsRuns (fun f => !f.assertion.excludesNothing) calls := by
  have hmap : ((q.recordings calls).map fun e => (e.1, e.2.isSome)) =
      calls.map fun k => (k.1, !k.2.assertion.excludesNothing) := by
    rw [recordings, List.map_map]
    exact List.map_congr_left fun k _ => by rw [Function.comp_apply, Assertion.isSome_recorded?]
  rw [← keepsRuns_map_iff, hmap]
  exact keepsRuns_map_iff (fun f : Filter => !f.assertion.excludesNothing) calls

theorem present_recordings_filter (q : Query) (calls : List (Conjunction × Filter)) :
    present (q.recordings (calls.filter fun k => !k.2.assertion.excludesNothing)) =
      present (q.recordings calls) := by
  rw [present, present, recordings, recordings, List.filterMap_map, List.filterMap_map,
    List.filterMap_filter]
  refine List.filterMap_congr fun k _ => ?_
  rw [← Assertion.isSome_recorded? q.tables]
  cases hrecorded : k.2.assertion.recorded? q.tables <;> simp [hrecorded]

/-- The clause means what the calls mean if leaving out those for complements of empty lists changes
no run of AND. -/
theorem keepsMeaning_of_keepsRuns
    (h : KeepsRuns (fun f => !f.assertion.excludesNothing) calls) : q.KeepsMeaning s calls :=
  keepsMeaning_iff.mpr fun _ => (keepsRuns_recordings.mpr h).holdTogether_present

/-- Assertions that do not depend on one another only keep their meaning that way. -/
theorem KeepsMeaning.keepsRuns (h : q.KeepsMeaning s calls)
    (hdistinct : ((present (q.recordings calls)).map (·.2)).Nodup)
    (hnever : .never ∉ (present (q.recordings calls)).map (·.2)) :
    KeepsRuns (fun f => !f.assertion.excludesNothing) calls := by
  refine keepsRuns_recordings.mp (keepsRuns_of_forall hdistinct fun truth hsupport => ?_)
  exact keepsMeaning_iff.mp h ⟨truth, fun hzero => hnever (hsupport _ hzero)⟩

/-- **A complement of an empty list is a call that was not made.**  Let a clause have the conditions
of calls and no others.  Each of them has a text, unless it is an empty piece of SQL.  The clause
has the truth value of the calls without those for complements of empty lists.  With these, which
are true, it agrees if leaving them out changes no run of AND; and only then, if the assertions that
are recorded are all different and none of them is the relation that never holds. -/
theorem keepsMeaning_of_calls (q : Query) (s : Section) (calls : List (Conjunction × Filter)) :
    let rest := calls.filter fun k => !k.2.assertion.excludesNothing
    ((∀ k ∈ calls, k.2 ≠ .raw "") → ∀ p ∈ q.conditionsOf s calls, p.toSql ≠ .ok "") ∧
    (q.conditionsOf s calls = q.conditionsOf s rest ∧ q.KeepsMeaning s rest) ∧
    (KeepsRuns (fun f => !f.assertion.excludesNothing) calls → q.KeepsMeaning s calls) ∧
    (((present (q.recordings calls)).map (·.2)).Nodup →
      .never ∉ (present (q.recordings calls)).map (·.2) → q.KeepsMeaning s calls →
        KeepsRuns (fun f => !f.assertion.excludesNothing) calls) := by
  intro rest
  refine ⟨fun htext p hp hempty => ?_, ⟨?_, keepsMeaning_of_keepsRuns ?_⟩,
    keepsMeaning_of_keepsRuns, fun hdistinct hnever hmeaning =>
      hmeaning.keepsRuns hdistinct hnever⟩
  · rw [conditionsOf_eq] at hp
    obtain ⟨e, he, rfl⟩ := List.mem_map.mp hp
    obtain ⟨k, hk, hrecorded⟩ := List.mem_map.mp (mem_present_iff.mp he)
    obtain ⟨-, hassertion⟩ := Prod.mk.inj hrecorded
    exact Filter.not_isSilent (htext k hk) hassertion e.1 (Predicate.toSql_eq_empty_iff _ |>.mp hempty)
  · rw [conditionsOf_eq, conditionsOf_eq, present_recordings_filter]
  · exact keepsRuns_of_forall_mem fun k hk => (List.mem_filter.mp hk).2

/-- At the start of a run of AND that goes on such a call counts for true. -/
theorem keepsMeaning_of_calls_and :
    let calls : List (Conjunction × Filter) :=
      [(.and, .notIn (.text "c") (.side (.tuple ⟨[]⟩))), (.and, .eq (.text "a") (.text "x")),
        (.or, .isIn (.text "b") (.side (.tuple ⟨[.int 1]⟩)))]
    KeepsRuns (fun f => !f.assertion.excludesNothing) calls ∧
      ({} : Query).KeepsMeaning .havings calls := by
  intro calls
  have hruns : KeepsRuns (fun f => !f.assertion.excludesNothing) calls := by decide
  exact ⟨hruns, (keepsMeaning_of_calls {} .havings calls).2.2.1 hruns⟩

/-- Behind OR such a call makes all of them true, and the clause asks for what is in front of it. -/
theorem not_keepsMeaning_or :
    let q : Query := { fromClause := some { table := some (.name ⟨"t"⟩) } }
    let calls : List (Conjunction × Filter) :=
      [(.and, .eq (.text "a") (.side (.value (.int 1)))),
        (.or, .notIn (.text "b") (.side (.tuple ⟨[]⟩)))]
    (q.filterAll .wheres (calls.map fun k => .single k.1 k.2)).toSql =
        .ok "SELECT * FROM `t` WHERE `a` = 1" ∧
      ¬ q.KeepsMeaning .wheres calls := by
  intro q calls
  refine ⟨rfl, fun hmeaning => ?_⟩
  have hrecorded : (present (q.recordings calls)).map (·.2) =
      [.relation (.ofName "a") .eq (.value (.int 1))] := rfl
  have hruns := hmeaning.keepsRuns (by rw [hrecorded]; simp)
    (by rw [hrecorded]; simp [Assertion.never, Assertion.relation, Operand.ofName])
  revert hruns
  decide

end Query

end FluentSql
