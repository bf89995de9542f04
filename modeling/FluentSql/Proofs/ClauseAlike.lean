import FluentSql.Proofs.ValueAlike

/-! # Clauses under substitution

Each clause of a SELECT statement is made of the texts of its parts.  When these are alike, so are
the clauses, and what is seen of a clause is its own head words (`Clause.words`) unless it is left
out. -/

namespace FluentSql

/-- The clauses of a SELECT statement, with those of their modifiers that begin other clauses. -/
inductive Clause where
  | columns
  | fromClause
  | sample
  | arrayJoin (isLeft : Bool)
  | join (strictness : Option JoinStrictness) (kind : Option JoinKind)
  | preWheres
  | wheres
  | groups
  | havings
  | orders
  | limitBy
  | limit
  | union
  | format
deriving DecidableEq, Repr

namespace Clause

/-- The head words of a clause. -/
def words : Clause → List String
  | columns => ["SELECT"]
  | fromClause => ["FROM"]
  | sample => ["SAMPLE"]
  | arrayJoin isLeft => (if isLeft then ["LEFT"] else []) ++ ["ARRAY", "JOIN"]
  | join strictness kind =>
      (if strictness = some .all then ["ALL"] else []) ++
        ((if kind = some .left then ["LEFT"] else []) ++ ["JOIN"])
  | preWheres => ["PREWHERE"]
  | wheres => ["WHERE"]
  | groups => ["GROUP", "BY"]
  | havings => ["HAVING"]
  | orders => ["ORDER", "BY"]
  | limitBy => ["LIMIT", "BY"]
  | limit => ["LIMIT"]
  | union => ["UNION", "ALL"]
  | format => ["FORMAT"]

theorem words_ne_nil (c : Clause) : c.words ≠ [] := by
  cases c <;> simp [words]

/-- The clause, if it is set. -/
def ofSet (c : Clause) (isSet : Bool) : List Clause := if isSet then [c] else []

/-- The clause, unless the text of its body is empty. -/
def ofText (c : Clause) (body : String) : List Clause := if body = "" then [] else [c]

/-- The head words of a clause that is set or not. -/
def wordsIf (c : Clause) (isSet : Bool) : List String := (c.ofSet isSet).flatMap words

/-- The head words of a clause with the given body. -/
def shown (c : Clause) (body : String) : List String := (c.ofText body).flatMap words

end Clause

variable {f : String → String}

namespace Alike

/-- A clause that is set shows its head words. -/
theorem wordsIf_true {c : Clause} {s s' : String} (h : Alike f c.words s s') :
    Alike f (c.wordsIf true) s s' := by
  rw [Clause.wordsIf, Clause.ofSet, if_pos rfl, List.flatMap_singleton]
  exact h

/-- A keyword with a body of which nothing is seen. -/
theorem clause {c : Clause} {k s s' : String} (hk : Fixed [] [] c.words (k ++ " "))
    (hend : Token.endsApart (Token.ofText (k ++ " "))) (h : Alike f [] s s') :
    Alike f (c.shown s) (Text.clause k s) (Text.clause k s') := by
  unfold Text.clause Clause.shown Clause.ofText
  by_cases hs : s = ""
  · rw [if_pos hs, if_pos hs, if_pos (h.eq_empty_iff.mp hs)]
    exact empty
  · rw [if_neg hs, if_neg hs, if_neg fun hs' => hs (h.eq_empty_iff.mpr hs'),
      List.flatMap_singleton]
    have hbody := h.behind (k ++ " ") c.words hk hend
    rwa [List.append_nil] at hbody

end Alike

/-! ### Columns -/

theorem alike_aliased {s s' : String} (h : Alike f [] s s') :
    ∀ aliasName : Option Identifier, Alike f [] (aliased s aliasName) (aliased s' aliasName)
  | none => h
  | some aliasName => by
      rw [aliased, aliased]
      by_cases hs : s = ""
      · rw [if_pos hs, if_pos (h.eq_empty_iff.mp hs)]
        exact Alike.empty
      · rw [if_neg hs, if_neg fun hs' => hs (h.eq_empty_iff.mpr hs')]
        exact h.join " AS " (by decide) (by decide) (by decide) aliasName.alike_quoted

theorem selectList_eq (columns : List String) :
    selectList columns =
      if columns.filter (· ≠ "") = [] then "*" else Text.commaList (columns.filter (· ≠ "")) := by
  unfold selectList
  split
  · rename_i h
    rw [if_pos h]
  · rename_i h
    rw [if_neg fun hnil => h hnil]

theorem alike_selectList {columns columns' : List String} (h : AlikeAll f [] columns columns') :
    Alike f [] (selectList columns) (selectList columns') := by
  have hfilter := h.filter
  rw [selectList_eq, selectList_eq]
  split
  · rename_i hnil
    rw [if_pos (hfilter.eq_nil_iff.mp hnil)]
    exact Alike.fixed (by decide)
  · rename_i hne
    rw [if_neg fun hnil => hne (hfilter.eq_nil_iff.mpr hnil)]
    exact hfilter.commaList

/-! ### Groups and orders -/

/-- The grouping is given up on both sides, or the texts of its columns are alike. -/
inductive AlikeGroups (f : String → String) : Option (List String) → Option (List String) → Prop
  | none : AlikeGroups f none none
  | some {columns columns' : List String} (h : AlikeAll f [] columns columns') :
      AlikeGroups f (some columns) (some columns')

theorem AlikeGroups.groupClause {columns columns' : Option (List String)}
    (h : AlikeGroups f columns columns') :
    Alike f (Clause.groups.shown (groupClause columns)) (groupClause columns)
      (groupClause columns') := by
  cases h with
  | none => exact Alike.empty
  | some h =>
      rw [Clause.shown, Clause.ofText, FluentSql.groupClause,
        if_congr (Text.clause_eq_empty_iff _ _) rfl rfl]
      exact h.filter.commaList.clause (by decide) (by decide)

theorem alike_orderText {column column' : String} (h : Alike f [] column column')
    (direction : Option Direction) (collation : Option String) :
    Alike f [] (orderText column direction collation)
      (orderText column' direction (collation.map f)) := by
  have hdirection (d : Direction) : Alike f [] d.token d.token := by
    cases d <;> exact Alike.fixed (by decide)
  have hplain {s s' : String} (hs : Alike f [] s s') :
      Alike f [] (orderText s none collation) (orderText s' none (collation.map f)) := by
    cases collation with
    | none => exact hs
    | some c => exact hs.join " COLLATE " (by decide) (by decide) (by decide) (Alike.quote c)
  cases direction with
  | none => exact hplain h
  | some d => exact hplain (h.join " " (by decide) (by decide) (by decide) (hdirection d))

theorem alike_orderClauseOrNothing {entries entries' : List String}
    (h : AlikeAll f [] entries entries') :
    Alike f (Clause.orders.wordsIf (!entries.isEmpty)) (orderClauseOrNothing entries)
      (orderClauseOrNothing entries') := by
  unfold orderClauseOrNothing
  by_cases hnil : entries = []
  · rw [if_pos hnil, if_pos (h.eq_nil_iff.mp hnil), hnil]
    exact Alike.empty
  · rw [if_neg hnil, if_neg fun hnil' => hnil (h.eq_nil_iff.mpr hnil'),
      List.isEmpty_eq_false_iff.mpr hnil]
    have hclause := h.commaList.behind "ORDER BY " ["ORDER", "BY"] (by decide) (by decide)
    exact hclause.wordsIf_true

/-! ### Limits, samples and formats -/

theorem RowLimit.alike_sql (l : RowLimit) : Alike f ["LIMIT"] l.sql l.sql := by
  have hnumber (n : Nat) : Alike f [] (toString n) (toString n) :=
    Alike.number fun _ hc => isNumeric_of_mem_natText hc
  have hfirst (n : Nat) := (hnumber n).behind "LIMIT " ["LIMIT"] (by decide) (by decide)
  obtain ⟨count, offset⟩ := l
  cases offset with
  | none => exact hfirst count.toNat
  | some offset =>
      exact (hfirst offset.toNat).glue ", " [] (by decide) (by decide) (by decide)
        (hnumber count.toNat)

theorem alike_limitClause : ∀ l : Option RowLimit,
    Alike f (Clause.limit.wordsIf l.isSome) (limitClause l) (limitClause l)
  | none => Alike.empty
  | some l => Alike.wordsIf_true l.alike_sql

theorem alike_limitBy (l : RowLimit) {columns columns' : List String}
    (h : AlikeAll f [] columns columns') :
    Alike f ["LIMIT", "BY"] (l.sql ++ " BY " ++ Text.commaList columns)
      (l.sql ++ " BY " ++ Text.commaList columns') :=
  l.alike_sql.glue " BY " ["BY"] (by decide) (by decide) (by decide) h.commaList

theorem alike_sampleClause : ∀ x : Option Binary64,
    Alike f (Clause.sample.wordsIf x.isSome) (sampleClause x) (sampleClause x)
  | none => Alike.empty
  | some x =>
      Alike.wordsIf_true (x.alike_sqlText.behind "SAMPLE " ["SAMPLE"] (by decide) (by decide))

theorem Format.alike_token (x : Format) : Alike f [] x.token x.token := by
  cases x <;> exact Alike.fixed (by decide)

theorem alike_formatClause : ∀ x : Option Format,
    Alike f (Clause.format.wordsIf x.isSome) (formatClause x) (formatClause x)
  | none => Alike.empty
  | some x =>
      Alike.wordsIf_true (x.alike_token.behind "FORMAT " ["FORMAT"] (by decide) (by decide))

/-! ### Conditions -/

/-- Pieces behind an opening and in front of a closing one, all in one sequence of words. -/
theorem words_enclosed {k l : String} (hk : k ≠ "") (hl : l ≠ "") {pieces : List String}
    (hne : pieces.filter (· ≠ "") ≠ []) :
    Text.words (k :: (pieces ++ [l])) = k ++ " " ++ Text.words pieces ++ (" " ++ l) := by
  have hlast : [l].filter (· ≠ "") = [l] := List.filter_cons_of_pos (by simp [hl])
  unfold Text.words
  rw [List.filter_cons_of_pos (by simp [hk]), List.filter_append, hlast,
    String.intercalate_cons_of_ne_nil (by simp), String.intercalate_append_of_ne_nil hne (by simp),
    String.intercalate_singleton]
  simp only [String.append_assoc]

theorem Conjunction.alike_token (c : Conjunction) : Alike f [] c.token c.token := by
  cases c <;> exact Alike.fixed (by decide)

theorem alike_words_three {a a' b b' c c' : String} (ha : Alike f [] a a') (hb : Alike f [] b b')
    (hc : Alike f [] c c') : Alike f [] (Text.words [a, b, c]) (Text.words [a', b', c']) :=
  (AlikeAll.cons ha (AlikeAll.cons hb (AlikeAll.cons hc AlikeAll.nil))).words

theorem relation_notBetween (first second : String) :
    relation first (some .notBetween) second =
      "NOT ( " ++ Text.words [first, Operator.between.token, second] ++ " )" := by
  have hne : [first, Operator.between.token, second].filter (· ≠ "") ≠ [] := by
    simp [Operator.token]
  exact words_enclosed (k := "NOT (") (l := ")") (by decide) (by decide) hne

theorem alike_relation {first first' second second' : String} (hfirst : Alike f [] first first')
    (hsecond : Alike f [] second second') :
    ∀ operator : Option Operator,
      Alike f [] (relation first operator second) (relation first' operator second')
  | none => (AlikeAll.cons hfirst (AlikeAll.cons hsecond AlikeAll.nil)).words
  | some op => by
      have hplain := alike_words_three hfirst op.alike_token hsecond
      have hrange := alike_words_three hfirst Operator.between.alike_token hsecond
      cases op with
      | notBetween =>
          rw [relation_notBetween, relation_notBetween]
          exact hrange.enclosed "NOT ( " " )" ')' (by decide) (by decide) (by decide) (by decide)
      | _ => exact hplain

/-- Conditions with the same conjunctions and alike texts. -/
def AlikeConditions (f : String → String) :
    List (Conjunction × String) → List (Conjunction × String) → Prop :=
  List.Forall₂ fun c d => c.1 = d.1 ∧ Alike f [] c.2 d.2

namespace AlikeConditions

theorem filter {cs ds : List (Conjunction × String)} (h : AlikeConditions f cs ds) :
    AlikeConditions f (cs.filter (·.2 ≠ "")) (ds.filter (·.2 ≠ "")) := by
  induction h with
  | nil => exact List.Forall₂.nil
  | @cons c d cs ds hcd _ ih =>
      by_cases hc : c.2 = ""
      · have hd : d.2 = "" := hcd.2.eq_empty_iff.mp hc
        rw [List.filter_cons_of_neg (by simp [hc]), List.filter_cons_of_neg (by simp [hd])]
        exact ih
      · have hd : d.2 ≠ "" := fun hd => hc (hcd.2.eq_empty_iff.mpr hd)
        rw [List.filter_cons_of_pos (by simp [hc]), List.filter_cons_of_pos (by simp [hd])]
        exact List.Forall₂.cons hcd ih

theorem flatMap {cs ds : List (Conjunction × String)} (h : AlikeConditions f cs ds) :
    AlikeAll f [] (cs.flatMap fun c => [c.1.token, c.2])
      (ds.flatMap fun d => [d.1.token, d.2]) := by
  induction h with
  | nil => exact AlikeAll.nil
  | @cons c d cs ds hcd _ ih =>
      obtain ⟨hconjunction, hsql⟩ := hcd
      rw [List.flatMap_cons, List.flatMap_cons, hconjunction]
      exact AlikeAll.cons d.1.alike_token (AlikeAll.cons hsql ih)

theorem linked {cs ds : List (Conjunction × String)} (h : AlikeConditions f cs ds) :
    Alike f [] (linked cs) (linked ds) := by
  have hfilter := h.filter
  unfold FluentSql.linked
  revert hfilter
  generalize cs.filter (·.2 ≠ "") = cs
  generalize ds.filter (·.2 ≠ "") = ds
  rintro (_ | ⟨hcd, hrest⟩)
  · exact Alike.empty
  · exact (AlikeAll.cons hcd.2 (flatMap hrest)).words

end AlikeConditions

/-! ### Tables and joins -/

theorem alike_fromText {table table' : String} (h : Alike f [] table table')
    (aliasName : Option Identifier) (isFinal : Bool) :
    Alike f ["FROM"] (fromText table aliasName isFinal) (fromText table' aliasName isFinal) := by
  have htable := h.behind "FROM " ["FROM"] (by decide) (by decide)
  have hfinal {s s' : String} (hs : Alike f ["FROM"] s s') :
      Alike f ["FROM"] (if isFinal then s ++ " FINAL" else s)
        (if isFinal then s' ++ " FINAL" else s') := by
    cases isFinal with
    | false => exact hs
    | true => exact hs.before " FINAL" [] (by decide) (by decide)
  cases aliasName with
  | none => exact hfinal htable
  | some a =>
      exact hfinal (htable.glue " AS " [] (by decide) (by decide) (by decide) a.alike_quoted)

theorem alike_arrayJoinText (isLeft : Bool) {array array' : String} (h : Alike f [] array array') :
    Alike f (Clause.arrayJoin isLeft).words (arrayJoinText isLeft array)
      (arrayJoinText isLeft array') := by
  cases isLeft with
  | false => exact h.behind "ARRAY JOIN " ["ARRAY", "JOIN"] (by decide) (by decide)
  | true => exact h.behind "LEFT ARRAY JOIN " ["LEFT", "ARRAY", "JOIN"] (by decide) (by decide)

theorem alike_joinKeys (usingColumns : List Identifier) {cs ds : List (Conjunction × String)}
    (h : AlikeConditions f cs ds) :
    Alike f [] (joinKeys usingColumns cs) (joinKeys usingColumns ds) := by
  unfold joinKeys
  split
  · exact (Identifier.alike_quotedList usingColumns).behind "USING " [] (by decide) (by decide)
  · exact h.linked.behind "ON " [] (by decide) (by decide)

theorem alike_joinText (isGlobal : Bool) (strictness : Option JoinStrictness)
    (kind : Option JoinKind) {table table' : String} (htable : Alike f [] table table')
    (aliasName : Option Identifier) {keys keys' : String} (hkeys : Alike f [] keys keys') :
    Alike f (Clause.join strictness kind).words
      (joinText isGlobal strictness kind table aliasName keys)
      (joinText isGlobal strictness kind table' aliasName keys') := by
  have hglobal :
      Alike f [] (if isGlobal then "GLOBAL" else "") (if isGlobal then "GLOBAL" else "") := by
    cases isGlobal <;> exact Alike.fixed (by decide)
  have hstrictness :
      Alike f (if strictness = some .all then ["ALL"] else [])
        ((strictness.map JoinStrictness.token).getD "")
        ((strictness.map JoinStrictness.token).getD "") := by
    rcases strictness with _ | _ | _ <;> exact Alike.fixed (by decide)
  have hkind :
      Alike f (if kind = some .left then ["LEFT"] else []) ((kind.map JoinKind.token).getD "")
        ((kind.map JoinKind.token).getD "") := by
    rcases kind with _ | _ | _ | _ | _ | _ | _ <;> exact Alike.fixed (by decide)
  have hjoin : Alike f ["JOIN"] "JOIN" "JOIN" := Alike.fixed (by decide)
  have halias :
      Alike f [] ((aliasName.map fun a => "AS " ++ a.quoted).getD "")
        ((aliasName.map fun a => "AS " ++ a.quoted).getD "") := by
    cases aliasName with
    | none => exact Alike.empty
    | some a => exact a.alike_quoted.behind "AS " [] (by decide) (by decide)
  have hpieces := AlikeAll.cons hglobal (AlikeAll.cons hstrictness (AlikeAll.cons hkind
    (AlikeAll.cons hjoin (AlikeAll.cons htable (AlikeAll.cons halias
      (AlikeAll.cons hkeys AlikeAll.nil))))))
  exact hpieces.fragments

theorem alike_joinClauses {ws joins joins' : List String} (h : AlikeAll f ws joins joins') :
    Alike f ws (joinClauses joins) (joinClauses joins') :=
  h.intercalate " " (by decide) (by decide) (by decide)

/-! ### Unions -/

theorem Alike.unionAll {ws : List String} {s s' : String} (h : Alike f ws s s') :
    Alike f (Clause.union.words ++ ws) ("UNION ALL " ++ s) ("UNION ALL " ++ s') :=
  h.behind "UNION ALL " ["UNION", "ALL"] (by decide) (by decide)

theorem alike_unionClause {ws queries queries' : List String}
    (h : AlikeAll f ws (queries.map ("UNION ALL " ++ ·)) (queries'.map ("UNION ALL " ++ ·))) :
    Alike f ws (unionClause queries) (unionClause queries') :=
  h.intercalate " " (by decide) (by decide) (by decide)

end FluentSql
