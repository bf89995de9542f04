import FluentSql.Proofs.FormulaReading
import FluentSql.Query.Condition
import FluentSql.Sql.Select

/-! # Reading the text of conditions back

The text of a list of conditions is read as the list is meant (`Predicate.parse?_listToSql`): an OR
of maximal runs of AND, by the conjunctions of the conditions, where the complement of a range is
the negation of the range and a group is a condition of its own. -/

namespace FluentSql

namespace Predicate

/-! ### What conditions mean -/

/-- The conditions on plain values: comparisons, memberships in a list that is not empty, ranges,
and groups of such conditions. -/
inductive IsBasic : Predicate → Prop
  | compare {c : Conjunction} {op : Operator} {x y : Value} (hop : op ∈ Operator.comparisons)
      (hx : x.IsPlain) (hy : y.IsPlain) : IsBasic (.compare c (.value x) op (.value y))
  | member {c : Conjunction} {op : Operator} {x : Value} {vs : List Value} (hop : op.isMembership)
      (hx : x.IsPlain) (hne : vs ≠ []) (hvs : ∀ v ∈ vs, v.IsPlain) :
      IsBasic (.compare c (.value x) op (.tuple ⟨vs⟩))
  | range {c : Conjunction} {op : Operator} {x low high : Value}
      (hop : op = .between ∨ op = .notBetween) (hx : x.IsPlain) (hlow : low.IsPlain)
      (hhigh : high.IsPlain) :
      IsBasic (.compare c (.value x) op (.predicate (.bounds (.value low) (.value high))))
  | group {c : Conjunction} {ps : List Predicate} (hne : ps ≠ []) (hps : ∀ p ∈ ps, IsBasic p) :
      IsBasic (.single c (.group ps))

/-- The range of `x` between two bounds. -/
def range? (x : Term) : Operand → Option Formula
  | .predicate ⟨.value low, some .and, some (.value high), _⟩ =>
      low.term?.bind fun a => high.term?.map fun b => .between x a b
  | _ => none

/-- The relation of the term `x` to a second side. -/
def relation? (x : Term) (op : Operator) (second : Operand) : Option Formula :=
  if op = .between then range? x second
  else if op = .notBetween then (range? x second).map .not
  else
    match second with
    | .value y => y.term?.map fun t => .compare op x t
    | .tuple ⟨vs⟩ => (Value.termList? vs).map fun ts => .member op x ts
    | _ => none

mutual

/-- What a condition means. -/
def reading? : Predicate → Option Formula
  | ⟨.value x, some op, some second, _⟩ => x.term?.bind fun t => relation? t op second
  | ⟨.group ps, none, none, _⟩ => (entries? ps).map Formula.linked
  | _ => none

/-- What conditions mean, with their conjunctions. -/
def entries? : List Predicate → Option (List (Conjunction × Formula))
  | [] => some []
  | p :: ps => p.reading?.bind fun φ => (entries? ps).map fun es => (p.conjunction, φ) :: es

end

/-- What a list of conditions means. -/
def listReading? (ps : List Predicate) : Option Formula := (entries? ps).map Formula.linked

end Predicate

/-! ### Texts put together -/

namespace Lexeme

theorem read?_empty {ls : List Lexeme} (h : read? "" = some ls) : ls = [] := by
  have hempty : read? "" = some [] := rfl
  rw [hempty] at h
  exact (Option.some.inj h).symm

theorem intercalate_nil_left {α : Type} : ∀ lss : List (List α),
    ([] : List α).intercalate lss = lss.flatten
  | [] => rfl
  | [ls] => by simp
  | ls :: ms :: lss => by
      rw [List.intercalate_cons_cons, intercalate_nil_left (ms :: lss), List.append_nil]
      rfl

theorem flatten_filter {ss : List String} {lss : List (List Lexeme)}
    (h : List.Forall₂ (fun s ls => read? s = some ls) ss lss) :
    ∃ mss, List.Forall₂ (fun s ls => read? s = some ls) (ss.filter (· ≠ "")) mss ∧
      mss.flatten = lss.flatten := by
  induction h with
  | nil => exact ⟨[], List.Forall₂.nil, rfl⟩
  | @cons s ls ss lss hs _ ih =>
      obtain ⟨mss, hmss, hflatten⟩ := ih
      by_cases hempty : s = ""
      · subst hempty
        refine ⟨mss, hmss, ?_⟩
        rw [List.flatten_cons, read?_empty hs, hflatten]
        rfl
      · refine ⟨ls :: mss, ?_, by rw [List.flatten_cons, List.flatten_cons, hflatten]⟩
        rw [List.filter_cons_of_pos (by simpa using hempty)]
        exact List.Forall₂.cons hs hmss

/-- Pieces with spaces between them; those that are left out have no lexemes. -/
theorem read?_words {ss : List String} {lss : List (List Lexeme)}
    (h : List.Forall₂ (fun s ls => read? s = some ls) ss lss) :
    read? (Text.words ss) = some lss.flatten := by
  obtain ⟨mss, hmss, hflatten⟩ := flatten_filter h
  have hblank : ofText " " = [] := by decide
  have htext := read?_intercalate " " (by decide) (by decide) (by decide) hmss
  rw [hblank, intercalate_nil_left, hflatten] at htext
  exact htext

theorem read?_conjunction (c : Conjunction) : read? c.token = some [.word c.token] := by
  cases c <;> decide

/-- A text with a conjunction in front, and the lexemes of the text behind the same conjunction. -/
def ReadsAs (c : Conjunction × String) (e : Conjunction × List Lexeme) : Prop :=
  c.1 = e.1 ∧ read? c.2 = some e.2 ∧ e.2 ≠ []

theorem ReadsAs.ne_empty {c : Conjunction × String} {e : Conjunction × List Lexeme}
    (h : ReadsAs c e) : c.2 ≠ "" := by
  obtain ⟨-, hread, hne⟩ := h
  intro hempty
  rw [hempty] at hread
  exact hne (read?_empty hread)

theorem filter_of_readsAs {cs : List (Conjunction × String)} {es : List (Conjunction × List Lexeme)}
    (h : List.Forall₂ ReadsAs cs es) : cs.filter (·.2 ≠ "") = cs := by
  induction h with
  | nil => rfl
  | cons hce _ ih => rw [List.filter_cons_of_pos (by simpa using hce.ne_empty), ih]

/-- Texts with their conjunctions in front, as pieces. -/
theorem forall₂_pieces {cs : List (Conjunction × String)} {es : List (Conjunction × List Lexeme)}
    (h : List.Forall₂ ReadsAs cs es) :
    List.Forall₂ (fun s ls => read? s = some ls) (cs.flatMap fun d => [d.1.token, d.2])
      (es.flatMap fun d => [[.word d.1.token], d.2]) := by
  induction h with
  | nil => exact List.Forall₂.nil
  | @cons c e cs es hce _ ih =>
      obtain ⟨hconjunction, hread, -⟩ := hce
      have htoken := read?_conjunction e.1
      rw [List.flatMap_cons, List.flatMap_cons, hconjunction]
      exact List.Forall₂.cons htoken (List.Forall₂.cons hread ih)

theorem flatten_pieces (es : List (Conjunction × List Lexeme)) :
    (es.flatMap fun d => [[.word d.1.token], d.2]).flatten =
      es.flatMap fun d => Lexeme.word d.1.token :: d.2 := by
  rw [List.flatten_eq_flatMap, List.flatMap_assoc]
  simp

theorem read?_linked {cs : List (Conjunction × String)} {es : List (Conjunction × List Lexeme)}
    (h : List.Forall₂ ReadsAs cs es) : read? (FluentSql.linked cs) = some (linked es) := by
  unfold FluentSql.linked
  rw [filter_of_readsAs h]
  cases h with
  | nil => rfl
  | cons hce hrest =>
      have htext := read?_words (List.Forall₂.cons hce.2.1 (forall₂_pieces hrest))
      rw [List.flatten_cons, flatten_pieces] at htext
      exact htext

theorem read?_parenthesized {s : String} {ls : List Lexeme} (h : read? s = some ls) :
    read? (parenthesized s) = some (.symbol '(' :: (ls ++ [.symbol ')'])) :=
  read?_before ")" (by decide) (by decide) (read?_behind "(" (by decide) (by decide) h)

end Lexeme

/-! ### Conditions -/

namespace Predicate

open Formula (Item)

/-- The condition has a meaning, and its text is read as that. -/
def ReadsBack (p : Predicate) : Prop :=
  ∃ φ sql ls, p.reading? = some φ ∧ p.toSql = .ok sql ∧ Lexeme.read? sql = some ls ∧ Item ls φ

theorem relation_of_ne {op : Operator} (hop : op ≠ .notBetween) (first second : String) :
    relation first (some op) second = Text.words [first, op.token, second] := by
  cases op with
  | notBetween => exact absurd rfl hop
  | _ => rfl

theorem read?_relation {op : Operator} (hop : op ≠ .notBetween) {first second : String}
    {lx lop ly : List Lexeme} (hfirst : Lexeme.read? first = some lx)
    (htoken : Lexeme.read? op.token = some lop) (hsecond : Lexeme.read? second = some ly) :
    Lexeme.read? (relation first (some op) second) = some (lx ++ (lop ++ ly)) := by
  rw [relation_of_ne hop]
  have hwords := Lexeme.read?_words
    (List.Forall₂.cons hfirst (List.Forall₂.cons htoken (List.Forall₂.cons hsecond .nil)))
  simpa using hwords

/-- The complement of a range is the negation of the range in parentheses. -/
theorem read?_relation_notBetween {first second : String} {lx ly : List Lexeme}
    (hfirst : Lexeme.read? first = some lx) (hsecond : Lexeme.read? second = some ly) :
    Lexeme.read? (relation first (some .notBetween) second) =
      some (.word "NOT" :: .symbol '(' :: (lx ++ (.word "BETWEEN" :: ly) ++ [.symbol ')'])) := by
  have hopen : Lexeme.read? "NOT (" = some [.word "NOT", .symbol '('] := by decide
  have htoken : Lexeme.read? Operator.between.token = some [.word "BETWEEN"] := by decide
  have hclose : Lexeme.read? ")" = some [.symbol ')'] := by decide
  have hwords := Lexeme.read?_words (List.Forall₂.cons hopen (List.Forall₂.cons hfirst
    (List.Forall₂.cons htoken (List.Forall₂.cons hsecond (List.Forall₂.cons hclose .nil)))))
  have hrelation : relation first (some .notBetween) second =
      Text.words ["NOT (", first, Operator.between.token, second, ")"] := rfl
  rw [hrelation]
  simpa using hwords

theorem toSql_compare {c : Conjunction} {x : Value} {op : Operator} {second : Operand}
    {sql : String} (h : second.toSql = .ok sql) :
    (compare c (.value x) op second).toSql = .ok (relation x.sql (some op) sql) := by
  rw [compare, Predicate.toSql, Operand.toSql, Operand.toSqlOrNothing, h]
  rfl

theorem reading?_compare {c : Conjunction} {x : Value} {tx : Term} (hx : x.term? = some tx)
    (op : Operator) (second : Operand) :
    (compare c (.value x) op second).reading? = relation? tx op second := by
  rw [compare, reading?, hx, Option.bind_some]

/-- An operator that is not of a range relates a term to a value or to a list. -/
theorem relation?_of_ne {op : Operator} (hbetween : op ≠ .between) (hnotBetween : op ≠ .notBetween)
    (x : Term) :
    (∀ y : Value, relation? x op (.value y) = y.term?.map fun t => .compare op x t) ∧
      ∀ vs : List Value,
        relation? x op (.tuple ⟨vs⟩) = (Value.termList? vs).map fun ts => .member op x ts := by
  constructor <;> intro <;> unfold relation? <;> rw [if_neg hbetween, if_neg hnotBetween]

theorem readsBack_compare {c : Conjunction} {op : Operator} {x y : Value}
    (hop : op ∈ Operator.comparisons) (hx : x.IsPlain) (hy : y.IsPlain) :
    (compare c (.value x) op (.value y)).ReadsBack := by
  obtain ⟨tx, lx, htx, hlx, hwx⟩ := hx.readsBack
  obtain ⟨ty, ly, hty, hly, hwy⟩ := hy.readsBack
  obtain ⟨lop, hlop, hmem⟩ := read?_token (.inl hop)
  obtain ⟨hbetween, hnotBetween⟩ := Operator.ne_between_of (.inl hop)
  refine ⟨.compare op tx ty, _, _, ?_, toSql_compare rfl, read?_relation hnotBetween hlx hlop hly,
    Formula.item_compare hwx hmem hop hwy⟩
  rw [reading?_compare htx, (relation?_of_ne hbetween hnotBetween tx).1, hty]
  rfl

theorem readsBack_member {c : Conjunction} {op : Operator} {x : Value} {vs : List Value}
    (hop : op.isMembership) (hx : x.IsPlain) (hne : vs ≠ []) (hvs : ∀ v ∈ vs, v.IsPlain) :
    (compare c (.value x) op (.tuple ⟨vs⟩)).ReadsBack := by
  obtain ⟨tx, lx, htx, hlx, hwx⟩ := hx.readsBack
  obtain ⟨items, hterms, hread, hwritten⟩ := Value.readsBack_list fun v hv => (hvs v hv).readsBack
  obtain ⟨lop, hlop, hmem⟩ := read?_token (.inr hop)
  have hlist := Lexeme.read?_parenthesized (Value.read?_commaList hread)
  obtain ⟨hbetween, hnotBetween⟩ := Operator.ne_between_of (.inr hop)
  have hitems : items ≠ [] := by
    rintro rfl
    cases vs with
    | nil => exact hne rfl
    | cons v vs => cases hread
  refine ⟨.member op tx (items.map (·.2)), _, _, ?_, toSql_compare rfl,
    read?_relation hnotBetween hlx hlop hlist, Formula.item_member hwx hmem hop hitems hwritten⟩
  rw [reading?_compare htx, (relation?_of_ne hbetween hnotBetween tx).2, hterms]
  rfl

theorem readsBack_range {c : Conjunction} {op : Operator} {x low high : Value}
    (hop : op = .between ∨ op = .notBetween) (hx : x.IsPlain) (hlow : low.IsPlain)
    (hhigh : high.IsPlain) :
    (compare c (.value x) op (.predicate (.bounds (.value low) (.value high)))).ReadsBack := by
  obtain ⟨tx, lx, htx, hlx, hwx⟩ := hx.readsBack
  obtain ⟨a, llow, ha, hllow, hwlow⟩ := hlow.readsBack
  obtain ⟨b, lhigh, hb, hlhigh, hwhigh⟩ := hhigh.readsBack
  have hbetween : Lexeme.read? Operator.between.token = some [.word "BETWEEN"] := by decide
  have hand : Lexeme.read? Operator.and.token = some [.word "AND"] := by decide
  have hbounds := read?_relation (by decide) hllow hand hlhigh
  have hrange : range? tx (.predicate (.bounds (.value low) (.value high))) =
      some (.between tx a b) := by
    rw [bounds, compare, range?, ha, Option.bind_some, hb]
    rfl
  have hsql : (Operand.predicate (.bounds (.value low) (.value high))).toSql =
      .ok (relation low.sql (some .and) high.sql) := by
    rw [Operand.toSql]
    exact toSql_compare rfl
  have hitem : Item (lx ++ ([.word "BETWEEN"] ++ (llow ++ (.word "AND" :: lhigh))))
      (.between tx a b) := Formula.item_between hwx (by decide) hwlow hwhigh
  rcases hop with rfl | rfl
  · refine ⟨.between tx a b, _, _, ?_, toSql_compare hsql,
      read?_relation (by decide) hlx hbetween hbounds, hitem⟩
    rw [reading?_compare htx]
    exact hrange
  · have hinner (n : Nat) := Item.takes hitem (n := n)
    have hgroup := Formula.item_group (by decide) hinner
    refine ⟨.not (.between tx a b), _, _, ?_, toSql_compare hsql,
      read?_relation_notBetween hlx hbounds, Formula.item_not hgroup⟩
    rw [reading?_compare htx]
    exact congrArg (Option.map Formula.not) hrange

/-! ### Lists of conditions -/

theorem readsBack_entries {ps : List Predicate} (h : ∀ p ∈ ps, p.ReadsBack) :
    ∃ (cs : List (Conjunction × String)) (es : List (Conjunction × List Lexeme × Formula)),
      entries? ps = some (es.map (Prod.map id Prod.snd)) ∧ toSqlList ps = .ok cs ∧
      List.Forall₂ Lexeme.ReadsAs cs (es.map (Prod.map id Prod.fst)) ∧
      (∀ e ∈ es, Item e.2.1 e.2.2) ∧ es.length = ps.length := by
  induction ps with
  | nil => exact ⟨[], [], rfl, rfl, List.Forall₂.nil, by simp, rfl⟩
  | cons p ps ih =>
      obtain ⟨φ, sql, ls, hφ, hsql, hls, hitem⟩ := h p List.mem_cons_self
      obtain ⟨cs, es, hentries, hlist, hreads, hitems, hlength⟩ :=
        ih fun q hq => h q (List.mem_cons_of_mem p hq)
      refine ⟨(p.conjunction, sql) :: cs, (p.conjunction, ls, φ) :: es, ?_, ?_, ?_, ?_, ?_⟩
      · rw [entries?, hφ, hentries]
        rfl
      · rw [toSqlList, hsql, hlist]
        rfl
      · exact List.Forall₂.cons ⟨rfl, hls, hitem.1⟩ hreads
      · intro e he
        rcases List.mem_cons.mp he with rfl | he
        · exact hitem
        · exact hitems e he
      · rw [List.length_cons, List.length_cons, hlength]

/-- A list of conditions is read as a whole. -/
theorem readsBack_list {ps : List Predicate} (hne : ps ≠ []) (h : ∀ p ∈ ps, p.ReadsBack) :
    ∃ φ sql ls, listReading? ps = some φ ∧ listToSql ps = .ok sql ∧ Lexeme.read? sql = some ls ∧
      ∀ n, ls.length ≤ n →
        (Formula.read n).Takes [.word "OR", .word "AND", .symbol '.'] ls φ := by
  obtain ⟨cs, es, hentries, hlist, hreads, hitems, hlength⟩ := readsBack_entries h
  have hes : es ≠ [] := by
    intro hnil
    rw [hnil] at hlength
    exact hne (List.length_eq_zero_iff.mp hlength.symm)
  refine ⟨_, linked cs, _, ?_, ?_, Lexeme.read?_linked hreads,
    fun n hn => Formula.takes_linked hes hitems hn⟩
  · rw [listReading?, hentries]
    rfl
  · rw [listToSql, hlist]
    rfl

theorem toSql_group {c : Conjunction} {ps : List Predicate} {sql : String}
    (h : listToSql ps = .ok sql) :
    (single c (.group ps)).toSql = .ok (Text.words [parenthesized sql, ""]) := by
  rw [listToSql] at h
  rw [single, Predicate.toSql, Operand.toSql, Operand.toSqlOrNothing]
  cases hcs : toSqlList ps with
  | error e =>
      rw [hcs] at h
      cases h
  | ok cs =>
      rw [hcs] at h
      cases h
      rfl

theorem readsBack_group {c : Conjunction} {ps : List Predicate} (hne : ps ≠ [])
    (h : ∀ p ∈ ps, p.ReadsBack) : (single c (.group ps)).ReadsBack := by
  obtain ⟨φ, sql, ls, hφ, hsql, hls, htakes⟩ := readsBack_list hne h
  have hempty : Lexeme.read? "" = some [] := rfl
  have hwords := Lexeme.read?_words
    (List.Forall₂.cons (Lexeme.read?_parenthesized hls) (List.Forall₂.cons hempty .nil))
  rw [List.flatten_cons, List.flatten_cons, List.flatten_nil, List.append_nil, List.append_nil]
    at hwords
  refine ⟨φ, _, _, ?_, toSql_group hsql, hwords, Formula.item_group (by decide) htakes⟩
  rw [single, reading?]
  exact hφ

theorem IsBasic.readsBack {p : Predicate} (h : p.IsBasic) : p.ReadsBack := by
  induction h with
  | compare hop hx hy => exact readsBack_compare hop hx hy
  | member hop hx hne hvs => exact readsBack_member hop hx hne hvs
  | range hop hx hlow hhigh => exact readsBack_range hop hx hlow hhigh
  | group hne _ ih => exact readsBack_group hne ih

/-- **Lists of conditions keep their meaning in their text**: the text is read, to its end, as the
OR of the maximal runs of AND that the list is. -/
theorem parse?_listToSql {ps : List Predicate} (hne : ps ≠ []) (h : ∀ p ∈ ps, p.IsBasic) :
    ∃ sql φ, listToSql ps = .ok sql ∧ listReading? ps = some φ ∧ Formula.parse? sql = some φ := by
  obtain ⟨φ, sql, ls, hφ, hsql, hls, htakes⟩ := readsBack_list hne fun p hp => (h p hp).readsBack
  refine ⟨sql, φ, hsql, hφ, ?_⟩
  have hread := htakes ls.length (Nat.le_refl _) [] (by simp)
  rw [List.append_nil] at hread
  rw [Formula.parse?, hls, Option.bind_some, hread]

/-- A comparison, the complement of a range, and a group with a membership in it. -/
def nestedConditions : List Predicate :=
  [compare .and (.value (.int 1)) .eq (.value (.int 2)),
   compare .or (.value (.identifier ⟨"t.a"⟩)) .notBetween
     (.predicate (.bounds (.value (.int 1)) (.value (.string "x")))),
   single .and (.group
     [compare .and (.value (.identifier ⟨"a"⟩)) .isIn (.tuple ⟨[.int 1, .null]⟩),
      compare .or (.value (.int 1)) .notLike (.value (.string "x"))])]

theorem parse?_listToSql_nestedConditions :
    ∃ sql φ, listToSql nestedConditions = .ok sql ∧ listReading? nestedConditions = some φ ∧
      Formula.parse? sql = some φ := by
  refine parse?_listToSql (List.cons_ne_nil _ _) ?_
  have hname : (Value.identifier ⟨"a"⟩).IsPlain := .identifier (by decide) (by decide)
  have hqualified : (Value.identifier ⟨"t.a"⟩).IsPlain := .identifier (by decide) (by decide)
  have hvalues : ∀ v ∈ [Value.int 1, Value.null], v.IsPlain := by
    simp [Value.IsPlain.int, Value.IsPlain.null]
  have hgroup : ∀ p ∈ [compare .and (.value (.identifier ⟨"a"⟩)) .isIn (.tuple ⟨[.int 1, .null]⟩),
      compare .or (.value (.int 1)) .notLike (.value (.string "x"))], p.IsBasic := by
    simp only [List.forall_mem_cons, List.not_mem_nil, false_imp_iff, implies_true, and_true]
    exact ⟨.member rfl hname (by simp) hvalues, .compare (by decide) (.int 1) (.string "x")⟩
  simp only [nestedConditions, List.forall_mem_cons, List.not_mem_nil, false_imp_iff, implies_true,
    and_true]
  exact ⟨.compare (by decide) (.int 1) (.int 2),
    .range (.inr rfl) hqualified (.int 1) (.string "x"), .group (by simp) hgroup⟩

end Predicate

end FluentSql
