import FluentSql.Proofs.Name
import FluentSql.Proofs.Star
import FluentSql.Proofs.Statement

/-! # Queries in the text of a query

`Query.rendered` lists a query and all queries nested in it, at any depth, that are part of its
text.  A column that counts rows drops what it selects, and groups that are given up are dropped as
a whole; everything else that is nested is written, and the text of the query holds the text of each
query in the list (`Query.within_toSql`).  Clauses lose the blanks at their ends when they are put
together, which leaves the text of a query in them as it is, because this one begins and ends
with other characters (`Text.Solid`). -/

namespace FluentSql

/-! ### Texts that trimming leaves alone -/

namespace Text

/-- A text that has characters, the first and the last of which are not blank. -/
def Solid (cs : List Char) : Prop :=
  cs ≠ [] ∧ (∀ c ∈ cs.head?, ¬ isBlank c) ∧ ∀ c ∈ cs.getLast?, ¬ isBlank c

instance (cs : List Char) : Decidable (Solid cs) :=
  decidable_of_iff (cs ≠ [] ∧ cs.head?.all (!isBlank ·) ∧ cs.getLast?.all (!isBlank ·))
    (by simp [Solid, Option.all_eq_true])

theorem Solid.reverse {cs : List Char} (h : Solid cs) : Solid cs.reverse := by
  refine ⟨by simpa using h.1, ?_, ?_⟩
  · rw [List.head?_reverse]
    exact h.2.2
  · rw [List.getLast?_reverse]
    exact h.2.1

theorem Solid.append {xs ys : List Char} (hxs : Solid xs) (hys : Solid ys) (sep : List Char) :
    Solid (xs ++ sep ++ ys) := by
  obtain ⟨hx, hhead, -⟩ := hxs
  obtain ⟨hy, -, hlast⟩ := hys
  refine ⟨by simp [hx], ?_, ?_⟩
  · rw [List.append_assoc, List.head?_append_of_ne_nil _ hx]
    exact hhead
  · rw [List.getLast?_append_of_ne_nil _ hy]
    exact hlast

theorem not_isBlank_head?_dropWhile (cs : List Char) :
    ∀ c ∈ (cs.dropWhile isBlank).head?, ¬ isBlank c := by
  intro c hc
  have hnot := List.head?_dropWhile_not isBlank cs
  rw [Option.mem_def.mp hc] at hnot
  simpa using hnot

theorem solid_trimChars {cs : List Char} (h : trimChars cs ≠ []) : Solid (trimChars cs) := by
  refine ⟨h, ?_, ?_⟩
  · rw [trimChars, ← dropWhile_trimEnd]
    exact not_isBlank_head?_dropWhile _
  · rw [trimChars, trimEnd, List.getLast?_reverse]
    exact not_isBlank_head?_dropWhile _

/-- A text stays whole when the blanks at the start go, if it does not start with blanks itself or
stands behind something else. -/
theorem exists_dropWhile_eq (before after : List Char) {t : List Char} (hne : t ≠ [])
    (hhead : (∀ c ∈ before, isBlank c) → ∀ c ∈ t.head?, ¬ isBlank c) :
    ∃ front, front <:+ before ∧
      (before ++ t ++ after).dropWhile isBlank = front ++ t ++ after := by
  obtain ⟨c, rest, rfl⟩ := List.exists_cons_of_ne_nil hne
  rw [List.append_assoc, List.dropWhile_append]
  split
  · rename_i hbefore
    have hblank : ∀ d ∈ before, isBlank d := by
      simpa [List.isEmpty_iff, List.dropWhile_eq_nil_iff] using hbefore
    exact ⟨[], List.nil_suffix, List.dropWhile_cons_of_neg (hhead hblank c rfl)⟩
  · exact ⟨before.dropWhile isBlank, List.dropWhile_suffix _, (List.append_assoc _ _ _).symm⟩

/-- A text stays whole when the blanks at both ends go, if it is solid where it stands at an end. -/
theorem exists_trimChars_eq (before after : List Char) {t : List Char} (hne : t ≠ [])
    (hhead : (∀ c ∈ before, isBlank c) → ∀ c ∈ t.head?, ¬ isBlank c)
    (hlast : (∀ c ∈ after, isBlank c) → ∀ c ∈ t.getLast?, ¬ isBlank c) :
    ∃ front back, front <:+ before ∧ back <+: after ∧
      trimChars (before ++ t ++ after) = front ++ t ++ back := by
  obtain ⟨front, hbefore, hfront⟩ := exists_dropWhile_eq before after hne hhead
  have hrev : t.reverse ≠ [] := by simpa using hne
  obtain ⟨back, hafter, hback⟩ :=
    exists_dropWhile_eq after.reverse front.reverse hrev (by simpa using hlast)
  have hreverse : (front ++ t ++ after).reverse = after.reverse ++ t.reverse ++ front.reverse := by
    simp
  refine ⟨front, back.reverse, hbefore, ?_, ?_⟩
  · rwa [← List.reverse_suffix, List.reverse_reverse]
  · rw [trimChars, trimEnd, hfront, hreverse, hback]
    simp

theorem Solid.isInfix_trimChars {t cs : List Char} (ht : Solid t) (h : t <:+: cs) :
    t <:+: trimChars cs := by
  obtain ⟨before, after, rfl⟩ := h
  obtain ⟨front, back, -, -, htrim⟩ :=
    exists_trimChars_eq before after ht.1 (fun _ => ht.2.1) fun _ => ht.2.2
  rw [htrim]
  exact List.infix_append _ _ _

/-- Solid texts with blanks between them. -/
theorem solid_intercalate {sep : List Char} {css : List (List Char)} (hne : css ≠ [])
    (h : ∀ cs ∈ css, Solid cs) : Solid (sep.intercalate css) := by
  induction css with
  | nil => exact absurd rfl hne
  | cons cs css ih =>
      have hcs := h cs List.mem_cons_self
      cases css with
      | nil =>
          rw [List.intercalate_singleton]
          exact hcs
      | cons ds css =>
          rw [List.intercalate_cons_cons]
          exact hcs.append (ih (List.cons_ne_nil _ _) fun es hes =>
            h es (List.mem_cons_of_mem cs hes)) sep

theorem dropWhile_isBlank_of_solid {cs : List Char} (h : Solid cs) :
    cs.dropWhile isBlank = cs := by
  obtain ⟨c, cs, rfl⟩ := List.exists_cons_of_ne_nil h.1
  exact List.dropWhile_cons_of_neg (h.2.1 c rfl)

theorem trim_of_solid {s : String} (h : Solid s.toList) : trim s = s := by
  rw [trim, trimChars, dropWhile_isBlank_of_solid h, trimEnd,
    dropWhile_isBlank_of_solid h.reverse, List.reverse_reverse, String.ofList_toList]

/-- Solid texts with a text between them. -/
theorem solid_append {s t : String} (hs : Solid s.toList) (k : String) (ht : Solid t.toList) :
    Solid (s ++ k ++ t).toList := by
  rw [String.toList_append, String.toList_append]
  exact hs.append ht k.toList

theorem toList_fragments (pieces : List String) :
    (fragments pieces).toList =
      [' '].intercalate (((pieces.map trim).filter (· ≠ "")).map String.toList) := by
  rw [fragments, words, String.toList_intercalate]
  rfl

/-- Fragments put together are solid if there are any. -/
theorem solid_fragments {pieces : List String} {s : String} (hs : s ∈ pieces) (hne : trim s ≠ "") :
    Solid (fragments pieces).toList := by
  rw [toList_fragments]
  refine solid_intercalate ?_ ?_
  · have hmem : trim s ∈ (pieces.map trim).filter (· ≠ "") := by
      simpa [hne] using ⟨s, hs, rfl⟩
    exact List.ne_nil_of_mem (List.mem_map_of_mem hmem)
  · intro cs hcs
    obtain ⟨t, ht, rfl⟩ := List.mem_map.mp hcs
    obtain ⟨hmem, hne⟩ := List.mem_filter.mp ht
    obtain ⟨u, -, rfl⟩ := List.mem_map.mp hmem
    rw [toList_trim]
    refine solid_trimChars fun hnil => ?_
    simp [← String.toList_eq_nil_iff, hnil] at hne

theorem ne_empty_of_solid {s : String} (h : Solid s.toList) : s ≠ "" := fun hs =>
  h.1 (String.toList_eq_nil_iff.mpr hs)

theorem fragments_ne_empty {pieces : List String} {s : String} (hs : s ∈ pieces)
    (hne : trim s ≠ "") : fragments pieces ≠ "" :=
  ne_empty_of_solid (solid_fragments hs hne)

/-- A piece behind others, with a blank in front unless it is empty. -/
def spaced (s : String) : String := if s = "" then "" else " " ++ s

theorem spaced_of_solid {s : String} (h : Solid s.toList) : spaced s = " " ++ s :=
  if_neg (ne_empty_of_solid h)

/-- A solid piece, or none, behind fragments. -/
theorem fragments_concat {pieces : List String} {s : String} (hpieces : fragments pieces ≠ "")
    (hs : s = "" ∨ Solid s.toList) :
    fragments (pieces ++ [s]) = fragments pieces ++ spaced s := by
  have hne : (pieces.map trim).filter (· ≠ "") ≠ [] := fun hnil =>
    hpieces (by rw [fragments, words, hnil]; rfl)
  rw [fragments, fragments, words, words, List.map_append, List.filter_append]
  rcases hs with rfl | hs
  · have hempty : ([""].map trim).filter (· ≠ "") = [] := by decide
    rw [hempty, List.append_nil, spaced, if_pos rfl, String.append_empty]
  · have hone : ([s].map trim).filter (· ≠ "") = [s] := by
      simp [trim_of_solid hs, ne_empty_of_solid hs]
    rw [hone, String.intercalate_append_of_ne_nil hne (List.cons_ne_nil s []),
      String.intercalate_singleton, spaced_of_solid hs, String.append_assoc]

/-- A solid text in one of the fragments stands in them together. -/
theorem Solid.isInfix_fragments {t : List Char} (ht : Solid t) {pieces : List String} {s : String}
    (hs : s ∈ pieces) (h : t <:+: s.toList) : t <:+: (fragments pieces).toList := by
  have htrim : t <:+: (trim s).toList := by
    rw [toList_trim]
    exact ht.isInfix_trimChars h
  have hne : trim s ≠ "" := by
    intro hempty
    rw [hempty] at htrim
    exact ht.1 (List.infix_nil.mp htrim)
  have hmem : (trim s).toList ∈ ((pieces.map trim).filter (· ≠ "")).map String.toList :=
    List.mem_map_of_mem (List.mem_filter.mpr ⟨List.mem_map_of_mem hs, by simpa using hne⟩)
  rw [toList_fragments]
  exact htrim.trans (isInfix_intercalate hmem)

end Text

/-! ### Nested queries -/

/-- Whether a function counts rows, whatever it is applied to. -/
def ColumnFunction.isCount : ColumnFunction → Bool
  | count => true
  | _ => false

mutual

/-- The queries in the text of the parts, in the order in which they are written. -/
def ColumnSource.rendered : ColumnSource → List Query
  | .value _ => []
  | .column c => c.rendered
  | .query q => q.rendered

def ColumnSource.renderedOfOption : Option ColumnSource → List Query
  | none => []
  | some s => s.rendered

def Column.rendered : Column → List Query
  | ⟨source, _, functions⟩ =>
      if functions.any ColumnFunction.isCount then [] else ColumnSource.renderedOfOption source

def Column.renderedOfList : List Column → List Query
  | [] => []
  | c :: cs => c.rendered ++ Column.renderedOfList cs

def TableSource.rendered : TableSource → List Query
  | .name _ => []
  | .raw _ => []
  | .query q => q.rendered

def TableSource.renderedOfOption : Option TableSource → List Query
  | none => []
  | some t => t.rendered

def FromClause.rendered : FromClause → List Query
  | ⟨table, _, _⟩ => TableSource.renderedOfOption table

def FromClause.renderedOfOption : Option FromClause → List Query
  | none => []
  | some f => f.rendered

def ArrayJoin.rendered : ArrayJoin → List Query
  | ⟨array, _⟩ => array.rendered

def ArrayJoin.renderedOfOption : Option ArrayJoin → List Query
  | none => []
  | some a => a.rendered

def Join.rendered : Join → List Query
  | ⟨table, _, _, _, _, _, onConditions⟩ =>
      TableSource.renderedOfOption table ++ Predicate.renderedOfList onConditions

def Join.renderedOfList : List Join → List Query
  | [] => []
  | j :: js => j.rendered ++ Join.renderedOfList js

def Operand.rendered : Operand → List Query
  | .value _ => []
  | .tuple _ => []
  | .column c => c.rendered
  | .group ps => Predicate.renderedOfList ps
  | .predicate p => p.rendered
  | .query q => q.rendered

def Operand.renderedOfOption : Option Operand → List Query
  | none => []
  | some o => o.rendered

def Predicate.rendered : Predicate → List Query
  | ⟨first, _, second, _⟩ => first.rendered ++ Operand.renderedOfOption second

def Predicate.renderedOfList : List Predicate → List Query
  | [] => []
  | p :: ps => p.rendered ++ Predicate.renderedOfList ps

def Order.rendered : Order → List Query
  | ⟨column, _, _⟩ => column.rendered

def Order.renderedOfList : List Order → List Query
  | [] => []
  | o :: os => o.rendered ++ Order.renderedOfList os

def LimitBy.rendered : LimitBy → List Query
  | ⟨_, columns⟩ => Column.renderedOfList columns

def LimitBy.renderedOfOption : Option LimitBy → List Query
  | none => []
  | some l => l.rendered

/-- The query and all queries nested in its text.  Groups that are given up have no text. -/
def Query.rendered : Query → List Query
  | ⟨columns, fromClause, sample, arrayJoin, joins, preWheres, wheres, groups, havings, orders,
      limitBy, limit, unions, format, siblings, tables, settings, cluster, fault⟩ =>
      ⟨columns, fromClause, sample, arrayJoin, joins, preWheres, wheres, groups, havings, orders,
        limitBy, limit, unions, format, siblings, tables, settings, cluster, fault⟩ ::
        (Column.renderedOfList columns ++ FromClause.renderedOfOption fromClause ++
          ArrayJoin.renderedOfOption arrayJoin ++ Join.renderedOfList joins ++
          Predicate.renderedOfList preWheres ++ Predicate.renderedOfList wheres ++
          (if groups.any Column.isStar then [] else Column.renderedOfList groups) ++
          Predicate.renderedOfList havings ++ Order.renderedOfList orders ++
          LimitBy.renderedOfOption limitBy ++ Query.renderedOfList unions)

def Query.renderedOfList : List Query → List Query
  | [] => []
  | q :: qs => q.rendered ++ Query.renderedOfList qs

end

theorem Query.mem_rendered_self (q : Query) : q ∈ q.rendered := by
  cases q
  rw [rendered]
  exact List.mem_cons_self

/-! ### Texts within texts -/

namespace Text

variable {s : String} {pieces : List String}

theorem isInfix_append_left (s t : String) : s.toList <:+: (s ++ t).toList := by
  rw [String.toList_append]
  exact (List.prefix_append _ _).isInfix

theorem isInfix_append_right (s t : String) : t.toList <:+: (s ++ t).toList := by
  rw [String.toList_append]
  exact (List.suffix_append _ _).isInfix

theorem isInfix_join (sep : String) (hs : s ∈ pieces) :
    s.toList <:+: (sep.intercalate pieces).toList := by
  rw [String.toList_intercalate]
  exact isInfix_intercalate (List.mem_map_of_mem hs)

/-- A piece stands in a text of all pieces that are not empty, even if it is empty. -/
theorem isInfix_of_mem_filter {text : String} (hs : s ∈ pieces)
    (h : s ∈ pieces.filter (· ≠ "") → s.toList <:+: text.toList) : s.toList <:+: text.toList := by
  by_cases hne : s = ""
  · rw [hne]
    exact List.nil_infix
  · exact h (List.mem_filter.mpr ⟨hs, by simpa using hne⟩)

theorem isInfix_words (hs : s ∈ pieces) : s.toList <:+: (words pieces).toList :=
  isInfix_of_mem_filter hs fun hmem => isInfix_join " " hmem

theorem isInfix_commaList (hs : s ∈ pieces) : s.toList <:+: (commaList pieces).toList :=
  isInfix_join ", " hs

theorem isInfix_clause (keyword body : String) : body.toList <:+: (clause keyword body).toList := by
  unfold clause
  split
  · rename_i hempty
    simp [hempty]
  · exact isInfix_append_right _ _

end Text

open Text (isInfix_append_left isInfix_append_right isInfix_of_mem_filter)

theorem isInfix_parenthesized (sql : String) : sql.toList <:+: (parenthesized sql).toList :=
  (isInfix_append_right _ _).trans (isInfix_append_left _ _)

/-! ### Clauses -/

section Clauses

variable {sql : String} {sqls : List String}

/-- A function keeps what it is applied to, unless it counts rows. -/
theorem ColumnFunction.isInfix_apply {f : ColumnFunction} (hf : ¬ f.isCount)
    (previous : Option ColumnFunction) (inner : String) :
    inner.toList <:+: (f.apply previous inner).toList := by
  have hcall (name rest : String) : inner.toList <:+: (name ++ inner ++ rest).toList :=
    (isInfix_append_right _ _).trans (isInfix_append_left _ _)
  unfold apply
  split
  · exact hcall _ _
  · exact ((hcall _ _).trans (isInfix_append_left _ _)).trans (isInfix_append_left _ _)
  · exact (isInfix_append_left _ _).trans (isInfix_append_left _ _)
  · split
    · exact (hcall _ _).trans (isInfix_append_left _ _)
    · exact (isInfix_append_left _ _).trans (isInfix_append_left _ _)
  · exact hcall _ _
  · exact absurd rfl hf
  · exact isInfix_append_right _ _
  · exact ((((hcall _ _).trans (isInfix_append_left _ _)).trans (isInfix_append_left _ _)).trans
      (isInfix_append_left _ _)).trans (isInfix_append_left _ _)

theorem ColumnFunction.isInfix_applyAll {fs : List ColumnFunction} (hfs : ¬ fs.any isCount)
    (previous : Option ColumnFunction) (inner : String) :
    inner.toList <:+: (applyAll previous inner fs).toList := by
  induction fs generalizing inner previous with
  | nil => exact List.infix_rfl
  | cons f fs ih =>
      simp only [List.any_cons, Bool.or_eq_true, not_or] at hfs
      exact (isInfix_apply hfs.1 previous inner).trans (ih hfs.2 (some f) _)

theorem isInfix_aliased (sql : String) (aliasName : Option Identifier) :
    sql.toList <:+: (aliased sql aliasName).toList := by
  cases aliasName with
  | none => exact List.infix_rfl
  | some a =>
      rw [aliased]
      split
      · rename_i hempty
        simp [hempty]
      · exact (isInfix_append_left _ _).trans (isInfix_append_left _ _)

theorem isInfix_selectList (hs : sql ∈ sqls) : sql.toList <:+: (selectList sqls).toList := by
  refine isInfix_of_mem_filter hs fun hmem => ?_
  unfold selectList
  split
  · rename_i hnil
    rw [hnil] at hmem
    cases hmem
  · exact Text.isInfix_commaList hmem

theorem isInfix_groupClause (hs : sql ∈ sqls) :
    sql.toList <:+: (groupClause (some sqls)).toList :=
  isInfix_of_mem_filter hs fun hmem =>
    (Text.isInfix_commaList hmem).trans (Text.isInfix_clause "GROUP BY" _)

theorem isInfix_orderText (column : String) (direction : Option Direction)
    (collation : Option String) :
    column.toList <:+: (orderText column direction collation).toList := by
  have hcollated (directed : String) :
      directed.toList <:+: (orderText directed none collation).toList := by
    cases collation with
    | none => exact List.infix_rfl
    | some c => exact (isInfix_append_left _ _).trans (isInfix_append_left _ _)
  cases direction with
  | none => exact hcollated column
  | some d =>
      exact ((isInfix_append_left _ _).trans (isInfix_append_left _ _)).trans
        (hcollated (column ++ " " ++ d.token))

theorem isInfix_orderClauseOrNothing (hs : sql ∈ sqls) :
    sql.toList <:+: (orderClauseOrNothing sqls).toList := by
  rw [orderClauseOrNothing, if_neg (List.ne_nil_of_mem hs)]
  exact (Text.isInfix_commaList hs).trans (isInfix_append_right _ _)

theorem isInfix_fromText (table : String) (aliasName : Option Identifier) (isFinal : Bool) :
    table.toList <:+: (fromText table aliasName isFinal).toList := by
  have hfinal (named : String) (h : table.toList <:+: named.toList) :
      table.toList <:+: (if isFinal then named ++ " FINAL" else named).toList := by
    split
    · exact h.trans (isInfix_append_left _ _)
    · exact h
  cases aliasName with
  | none => exact hfinal _ (isInfix_append_right _ _)
  | some a =>
      exact hfinal _ (((isInfix_append_right _ _).trans (isInfix_append_left _ _)).trans
        (isInfix_append_left _ _))

theorem isInfix_unionClause (hs : sql ∈ sqls) : sql.toList <:+: (unionClause sqls).toList :=
  (isInfix_append_right "UNION ALL " sql).trans (Text.isInfix_join " " (List.mem_map_of_mem hs))

theorem isInfix_relation_first (first : String) (operator : Option Operator) (second : String) :
    first.toList <:+: (relation first operator second).toList := by
  unfold relation
  split <;> exact Text.isInfix_words (by simp)

theorem isInfix_relation_second (first : String) (operator : Option Operator) (second : String) :
    second.toList <:+: (relation first operator second).toList := by
  unfold relation
  split <;> exact Text.isInfix_words (by simp)

theorem isInfix_linked {conditions : List (Conjunction × String)} {c : Conjunction × String}
    (hc : c ∈ conditions) : c.2.toList <:+: (linked conditions).toList := by
  by_cases hne : c.2 = ""
  · rw [hne]
    exact List.nil_infix
  · have hmem : c ∈ conditions.filter (·.2 ≠ "") := List.mem_filter.mpr ⟨hc, by simpa using hne⟩
    unfold linked
    split
    · rename_i hnil
      rw [hnil] at hmem
      cases hmem
    · rename_i d ds hcons
      rw [hcons] at hmem
      refine Text.isInfix_words ?_
      rcases List.mem_cons.mp hmem with rfl | hmem
      · exact List.mem_cons_self
      · exact List.mem_cons_of_mem _ (List.mem_flatMap.mpr ⟨c, hmem, by simp⟩)

end Clauses

/-! ### Nested queries within texts -/

/-- The text of the query stands in the given text. -/
def Query.Within (r : Query) (sql : String) : Prop :=
  ∃ t, r.toSql = .ok t ∧ Text.Solid t.toList ∧ t.toList <:+: sql.toList

/-- The texts of all queries stand in the given text. -/
def AllWithin (qs : List Query) (sql : String) : Prop := ∀ r ∈ qs, r.Within sql

/-- The text of each query stands in one of the given texts. -/
def AllAmong (qs : List Query) (sqls : List String) : Prop := ∀ r ∈ qs, ∃ sql ∈ sqls, r.Within sql

namespace Query.Within

variable {r : Query} {sql sql' : String} {pieces : List String}

theorem mono (h : r.Within sql) (hsub : sql.toList <:+: sql'.toList) : r.Within sql' := by
  obtain ⟨t, ht, hsolid, hinfix⟩ := h
  exact ⟨t, ht, hsolid, hinfix.trans hsub⟩

theorem fragments (hs : sql ∈ pieces) (h : r.Within sql) : r.Within (Text.fragments pieces) := by
  obtain ⟨t, ht, hsolid, hinfix⟩ := h
  exact ⟨t, ht, hsolid, hsolid.isInfix_fragments hs hinfix⟩

end Query.Within

/-! ### Compiling -/

/-- If the computation succeeds, its result has the property. -/
def Yields {ε α : Type} (P : α → Prop) (x : Except ε α) : Prop := ∀ a, x = .ok a → P a

namespace Yields

variable {ε α β : Type} {P : α → Prop} {Q : β → Prop} {x : Except ε α}

theorem pure {a : α} (h : P a) : Yields P (.ok a : Except ε α) := by
  intro b hb
  rwa [← Except.ok.inj hb]

theorem bind {k : α → Except ε β} (hx : Yields P x) (hk : ∀ a, x = .ok a → P a → Yields Q (k a)) :
    Yields Q (x >>= k) := by
  intro b hb
  obtain ⟨a, ha, hka⟩ := bind_eq_ok.mp hb
  exact hk a ha (hx a ha) b hka

theorem map {k : α → β} (hx : Yields P x) (hk : ∀ a, P a → Q (k a)) :
    Yields Q (x >>= fun a => Except.ok (k a)) :=
  hx.bind fun a _ ha => pure (hk a ha)

end Yields

section Lists

variable {qs rs : List Query} {sql sql' : String} {sqls : List String}

theorem AllWithin.nil (sql : String) : AllWithin [] sql := by
  intro r hr
  cases hr

theorem AllWithin.append (hqs : AllWithin qs sql) (hrs : AllWithin rs sql) :
    AllWithin (qs ++ rs) sql := by
  intro r hr
  rcases List.mem_append.mp hr with hr | hr
  · exact hqs r hr
  · exact hrs r hr

theorem AllWithin.imp (h : AllWithin qs sql) (hsub : ∀ {r : Query}, r.Within sql → r.Within sql') :
    AllWithin qs sql' :=
  fun r hr => hsub (h r hr)

theorem AllAmong.nil (sqls : List String) : AllAmong [] sqls := by
  intro r hr
  cases hr

theorem AllAmong.cons (hqs : AllWithin qs sql) (hrs : AllAmong rs sqls) :
    AllAmong (qs ++ rs) (sql :: sqls) := by
  intro r hr
  rcases List.mem_append.mp hr with hr | hr
  · exact ⟨sql, List.mem_cons_self, hqs r hr⟩
  · obtain ⟨s, hs, hwithin⟩ := hrs r hr
    exact ⟨s, List.mem_cons_of_mem sql hs, hwithin⟩

theorem AllAmong.allWithin (h : AllAmong qs sqls)
    (hsub : ∀ {r : Query} {s : String}, s ∈ sqls → r.Within s → r.Within sql) :
    AllWithin qs sql := by
  intro r hr
  obtain ⟨s, hs, hwithin⟩ := h r hr
  exact hsub hs hwithin

theorem AllWithin.linked {conditions : List (Conjunction × String)}
    (h : AllAmong qs (conditions.map Prod.snd)) : AllWithin qs (linked conditions) := by
  refine h.allWithin fun hs hwithin => ?_
  obtain ⟨c, hc, rfl⟩ := List.mem_map.mp hs
  exact hwithin.mono (isInfix_linked hc)

/-- A fragment of a statement. -/
theorem AllWithin.fragments (h : AllWithin qs sql) (hs : sql ∈ sqls) :
    AllWithin qs (Text.fragments sqls) :=
  h.imp fun hwithin => hwithin.fragments hs

end Lists

/-- A join with common columns has no conditions. -/
theorem Join.onConditions_eq_nil_of_check {hasTable : Bool} {u : Identifier} {us : List Identifier}
    {onConditions : List Predicate} {r : Unit}
    (h : Join.check hasTable (u :: us ≠ []) (¬ onConditions.isEmpty) = .ok r) :
    onConditions = [] := by
  cases onConditions with
  | nil => rfl
  | cons _ _ => cases hasTable <;> simp [Join.check] at h

/-- The text of a query begins and ends with characters that are not blank. -/
theorem Query.solid_toSql {q : Query} {sql : String} (h : q.toSql = .ok sql) :
    Text.Solid sql.toList := by
  obtain ⟨_, -, rfl⟩ := Query.toSql_eq_ok_iff.mp h
  exact Text.solid_fragments (s := "SELECT") List.mem_cons_self (by decide)

theorem Query.yields_cons_self {q : Query} {qs : List Query} (h : Yields (AllWithin qs) q.toSql) :
    Yields (AllWithin (q :: qs)) q.toSql := by
  intro sql hsql r hr
  rcases List.mem_cons.mp hr with rfl | hr
  · exact ⟨sql, hsql, Query.solid_toSql hsql, List.infix_rfl⟩
  · exact h sql hsql r hr

mutual

theorem ColumnSource.yields_rendered : ∀ s : ColumnSource, Yields (AllWithin s.rendered) s.toSql
  | .value v => by
      rw [ColumnSource.rendered, ColumnSource.toSql]
      exact Yields.pure (AllWithin.nil _)
  | .column c => by
      rw [ColumnSource.rendered, ColumnSource.toSql]
      exact (Column.yields_rendered c).map fun sql h => h.imp (·.mono (isInfix_parenthesized sql))
  | .query q => by
      rw [ColumnSource.rendered, ColumnSource.toSql]
      exact (Query.yields_rendered q).map fun sql h => h.imp (·.mono (isInfix_parenthesized sql))

theorem ColumnSource.yields_renderedOfOption : ∀ s : Option ColumnSource,
    Yields (AllWithin (ColumnSource.renderedOfOption s)) (ColumnSource.toSqlOrNothing s)
  | none => by
      rw [ColumnSource.renderedOfOption, ColumnSource.toSqlOrNothing]
      exact Yields.pure (AllWithin.nil _)
  | some s => by
      rw [ColumnSource.renderedOfOption, ColumnSource.toSqlOrNothing]
      exact ColumnSource.yields_rendered s

/-- A column in an ARRAY JOIN clause stands without parentheses. -/
theorem ColumnSource.yields_rendered_bare : ∀ s : ColumnSource,
    Yields (AllWithin s.rendered) s.toSqlBare
  | .value v => by
      rw [ColumnSource.rendered, ColumnSource.toSqlBare]
      exact Yields.pure (AllWithin.nil _)
  | .column c => by
      rw [ColumnSource.rendered, ColumnSource.toSqlBare]
      exact Column.yields_rendered c
  | .query q => by
      rw [ColumnSource.rendered, ColumnSource.toSqlBare]
      exact (Query.yields_rendered q).map fun sql h => h.imp (·.mono (isInfix_parenthesized sql))

theorem Column.yields_rendered : ∀ c : Column, Yields (AllWithin c.rendered) c.toSql
  | ⟨source, aliasName, functions⟩ => by
      rw [Column.rendered, Column.toSql]
      refine (ColumnSource.yields_renderedOfOption source).map fun inner hinner => ?_
      split
      · exact AllWithin.nil _
      · rename_i hcount
        exact hinner.imp fun h =>
          (h.mono (ColumnFunction.isInfix_applyAll hcount none inner)).mono
            (isInfix_aliased _ aliasName)

theorem Column.yields_renderedOfList : ∀ cs : List Column,
    Yields (AllAmong (Column.renderedOfList cs)) (Column.toSqlList cs)
  | [] => by
      rw [Column.renderedOfList, Column.toSqlList]
      exact Yields.pure (AllAmong.nil _)
  | c :: cs => by
      rw [Column.renderedOfList, Column.toSqlList]
      refine (Column.yields_rendered c).bind fun _ _ hsql => ?_
      exact (Column.yields_renderedOfList cs).map fun _ hrest => AllAmong.cons hsql hrest

theorem Column.yields_renderedOfGroups : ∀ cs : List Column,
    Yields (fun texts => ∀ sqls, texts = some sqls → AllAmong (Column.renderedOfList cs) sqls)
      (Column.toSqlGroups cs)
  | [] => by
      rw [Column.renderedOfList, Column.toSqlGroups]
      exact Yields.pure fun sqls _ => AllAmong.nil sqls
  | c :: cs => by
      rw [Column.renderedOfList, Column.toSqlGroups]
      refine (Column.yields_rendered c).bind fun sql _ hsql => ?_
      split
      · exact Yields.pure fun _ h => nomatch h
      · refine (Column.yields_renderedOfGroups cs).map fun rest hrest => ?_
        intro sqls hsqls
        obtain ⟨sqls', rfl, rfl⟩ := Option.map_eq_some_iff.mp hsqls
        exact AllAmong.cons hsql (hrest sqls' rfl)

theorem TableSource.yields_rendered : ∀ t : TableSource, Yields (AllWithin t.rendered) t.toSql
  | .name id => by
      rw [TableSource.rendered, TableSource.toSql]
      exact Yields.pure (AllWithin.nil _)
  | .raw sql => by
      rw [TableSource.rendered, TableSource.toSql]
      exact Yields.pure (AllWithin.nil _)
  | .query q => by
      rw [TableSource.rendered, TableSource.toSql]
      exact (Query.yields_rendered q).map fun sql h => h.imp (·.mono (isInfix_parenthesized sql))

theorem TableSource.yields_renderedOfOption : ∀ t : Option TableSource,
    Yields (AllWithin (TableSource.renderedOfOption t)) (TableSource.toSqlOrMissing t)
  | none => by
      rw [TableSource.toSqlOrMissing]
      exact fun _ h => nomatch h
  | some t => by
      rw [TableSource.renderedOfOption, TableSource.toSqlOrMissing]
      exact TableSource.yields_rendered t

theorem FromClause.yields_renderedOfOption : ∀ f : Option FromClause,
    Yields (AllWithin (FromClause.renderedOfOption f)) (FromClause.toSqlOrNothing f)
  | none => by
      rw [FromClause.renderedOfOption, FromClause.toSqlOrNothing]
      exact Yields.pure (AllWithin.nil _)
  | some ⟨table, aliasName, isFinal⟩ => by
      rw [FromClause.renderedOfOption, FromClause.rendered, FromClause.toSqlOrNothing,
        FromClause.toSql]
      exact (TableSource.yields_renderedOfOption table).map fun sql h =>
        h.imp (·.mono (isInfix_fromText sql aliasName isFinal))

theorem ArrayJoin.yields_renderedOfOption : ∀ a : Option ArrayJoin,
    Yields (AllWithin (ArrayJoin.renderedOfOption a)) (ArrayJoin.toSqlOrNothing a)
  | none => by
      rw [ArrayJoin.renderedOfOption, ArrayJoin.toSqlOrNothing]
      exact Yields.pure (AllWithin.nil _)
  | some ⟨array, isLeft⟩ => by
      rw [ArrayJoin.renderedOfOption, ArrayJoin.rendered, ArrayJoin.toSqlOrNothing, ArrayJoin.toSql]
      exact (ColumnSource.yields_rendered_bare array).map fun _ h =>
        h.imp (·.mono (isInfix_append_right _ _))

theorem Join.yields_rendered : ∀ j : Join, Yields (AllWithin j.rendered) j.toSql
  | ⟨table, strictness, kind, aliasName, isGlobal, usingColumns, onConditions⟩ => by
      rw [Join.rendered, Join.toSql]
      refine Yields.bind (P := fun _ => True) (fun _ _ => trivial) fun _ hcheck _ => ?_
      refine (TableSource.yields_renderedOfOption table).bind fun t _ htable => ?_
      refine (Predicate.yields_renderedOfList onConditions).map fun conditions hconditions => ?_
      refine AllWithin.append (htable.fragments (by simp)) ?_
      cases usingColumns with
      | nil =>
          exact ((AllWithin.linked hconditions).imp
            (·.mono (isInfix_append_right "ON " _))).fragments (by simp [joinKeys])
      | cons _ _ =>
          rw [Join.onConditions_eq_nil_of_check hcheck, Predicate.renderedOfList]
          exact AllWithin.nil _

theorem Join.yields_renderedOfList : ∀ js : List Join,
    Yields (AllAmong (Join.renderedOfList js)) (Join.toSqlList js)
  | [] => by
      rw [Join.renderedOfList, Join.toSqlList]
      exact Yields.pure (AllAmong.nil _)
  | j :: js => by
      rw [Join.renderedOfList, Join.toSqlList]
      refine (Join.yields_rendered j).bind fun _ _ hsql => ?_
      exact (Join.yields_renderedOfList js).map fun _ hrest => AllAmong.cons hsql hrest

theorem Operand.yields_rendered : ∀ o : Operand, Yields (AllWithin o.rendered) o.toSql
  | .value v => by
      rw [Operand.rendered, Operand.toSql]
      exact Yields.pure (AllWithin.nil _)
  | .tuple t => by
      rw [Operand.rendered, Operand.toSql]
      exact Yields.pure (AllWithin.nil _)
  | .column c => by
      rw [Operand.rendered, Operand.toSql]
      exact Column.yields_rendered c
  | .group ps => by
      rw [Operand.rendered, Operand.toSql]
      exact (Predicate.yields_renderedOfList ps).map fun _ h =>
        (AllWithin.linked h).imp (·.mono (isInfix_parenthesized _))
  | .predicate p => by
      rw [Operand.rendered, Operand.toSql]
      exact Predicate.yields_rendered p
  | .query q => by
      rw [Operand.rendered, Operand.toSql]
      exact (Query.yields_rendered q).map fun sql h => h.imp (·.mono (isInfix_parenthesized sql))

theorem Operand.yields_renderedOfOption : ∀ o : Option Operand,
    Yields (AllWithin (Operand.renderedOfOption o)) (Operand.toSqlOrNothing o)
  | none => by
      rw [Operand.renderedOfOption, Operand.toSqlOrNothing]
      exact Yields.pure (AllWithin.nil _)
  | some o => by
      rw [Operand.renderedOfOption, Operand.toSqlOrNothing]
      exact Operand.yields_rendered o

theorem Predicate.yields_rendered : ∀ p : Predicate, Yields (AllWithin p.rendered) p.toSql
  | ⟨first, operator, second, _⟩ => by
      rw [Predicate.rendered, Predicate.toSql]
      refine (Operand.yields_rendered first).bind fun sql _ hfirst => ?_
      refine (Operand.yields_renderedOfOption second).map fun sql' hsecond => ?_
      exact (hfirst.imp (·.mono (isInfix_relation_first sql operator sql'))).append
        (hsecond.imp (·.mono (isInfix_relation_second sql operator sql')))

theorem Predicate.yields_renderedOfList : ∀ ps : List Predicate,
    Yields (fun conditions => AllAmong (Predicate.renderedOfList ps) (conditions.map Prod.snd))
      (Predicate.toSqlList ps)
  | [] => by
      rw [Predicate.renderedOfList, Predicate.toSqlList]
      exact Yields.pure (AllAmong.nil _)
  | p :: ps => by
      rw [Predicate.renderedOfList, Predicate.toSqlList]
      refine (Predicate.yields_rendered p).bind fun _ _ hsql => ?_
      exact (Predicate.yields_renderedOfList ps).map fun _ hrest => AllAmong.cons hsql hrest

theorem Order.yields_renderedOfList : ∀ os : List Order,
    Yields (AllAmong (Order.renderedOfList os)) (Order.toSqlList os)
  | [] => by
      rw [Order.renderedOfList, Order.toSqlList]
      exact Yields.pure (AllAmong.nil _)
  | ⟨column, direction, collation⟩ :: os => by
      rw [Order.renderedOfList, Order.rendered, Order.toSqlList, Order.toSql]
      refine ((Column.yields_rendered column).map fun sql h =>
        h.imp (·.mono (isInfix_orderText sql direction collation))).bind fun _ _ hsql => ?_
      exact (Order.yields_renderedOfList os).map fun _ hrest => AllAmong.cons hsql hrest

theorem LimitBy.yields_renderedOfOption : ∀ l : Option LimitBy,
    Yields (AllWithin (LimitBy.renderedOfOption l)) (LimitBy.toSqlOrNothing l)
  | none => by
      rw [LimitBy.renderedOfOption, LimitBy.toSqlOrNothing]
      exact Yields.pure (AllWithin.nil _)
  | some ⟨limit, columns⟩ => by
      rw [LimitBy.renderedOfOption, LimitBy.rendered, LimitBy.toSqlOrNothing, LimitBy.toSql]
      exact (Column.yields_renderedOfList columns).map fun _ h =>
        h.allWithin fun hs hwithin =>
          (hwithin.mono (Text.isInfix_commaList hs)).mono (isInfix_append_right _ _)

theorem Query.yields_rendered : ∀ q : Query, Yields (AllWithin q.rendered) q.toSql
  | ⟨columns, fromClause, sample, arrayJoin, joins, preWheres, wheres, groups, havings, orders,
      limitBy, limit, unions, format, siblings, tables, settings, cluster, fault⟩ => by
      rw [Query.rendered]
      refine Query.yields_cons_self ?_
      rw [Query.toSql]
      refine Yields.bind (P := fun _ => True) (fun _ _ => trivial) fun _ _ _ => ?_
      refine (Column.yields_renderedOfList columns).bind fun _ _ hcolumns => ?_
      refine (FromClause.yields_renderedOfOption fromClause).bind fun _ _ hfrom => ?_
      refine (ArrayJoin.yields_renderedOfOption arrayJoin).bind fun _ _ harray => ?_
      refine (Join.yields_renderedOfList joins).bind fun _ _ hjoins => ?_
      refine (Predicate.yields_renderedOfList preWheres).bind fun _ _ hpre => ?_
      refine (Predicate.yields_renderedOfList wheres).bind fun _ _ hwheres => ?_
      refine (Column.yields_renderedOfGroups groups).bind fun texts egroups hgroups => ?_
      refine (Predicate.yields_renderedOfList havings).bind fun _ _ hhavings => ?_
      refine (Order.yields_renderedOfList orders).bind fun _ _ horders => ?_
      refine (LimitBy.yields_renderedOfOption limitBy).bind fun _ _ hlimitBy => ?_
      refine (Query.yields_renderedOfList unions).map fun _ hunions => ?_
      have hgroupClause : AllWithin
          (if groups.any Column.isStar then [] else Column.renderedOfList groups)
          (groupClause texts) := by
        rcases Column.toSqlGroups_eq_ok egroups with ⟨hstar, -⟩ | ⟨hstar, sqls, rfl, -⟩
        · rw [if_pos hstar]
          exact AllWithin.nil _
        · rw [if_neg hstar]
          exact (hgroups sqls rfl).allWithin fun hs h => h.mono (isInfix_groupClause hs)
      refine .append (.append (.append (.append (.append (.append (.append (.append (.append
        (.append ?_ ?_) ?_) ?_) ?_) ?_) ?_) ?_) ?_) ?_) ?_
      · exact (hcolumns.allWithin fun hs h => h.mono (isInfix_selectList hs)).fragments (by simp)
      · exact hfrom.fragments (by simp)
      · exact harray.fragments (by simp)
      · exact (hjoins.allWithin fun hs h => h.mono (Text.isInfix_join " " hs)).fragments
          (by simp [joinClauses])
      · exact ((AllWithin.linked hpre).imp
          (·.mono (Text.isInfix_clause "PREWHERE" _))).fragments (by simp)
      · exact ((AllWithin.linked hwheres).imp
          (·.mono (Text.isInfix_clause "WHERE" _))).fragments (by simp)
      · exact hgroupClause.fragments (by simp)
      · exact ((AllWithin.linked hhavings).imp
          (·.mono (Text.isInfix_clause "HAVING" _))).fragments (by simp)
      · exact (horders.allWithin fun hs h =>
          h.mono (isInfix_orderClauseOrNothing hs)).fragments (by simp)
      · exact hlimitBy.fragments (by simp)
      · exact (hunions.allWithin fun hs h => h.mono (isInfix_unionClause hs)).fragments (by simp)

theorem Query.yields_renderedOfList : ∀ qs : List Query,
    Yields (AllAmong (Query.renderedOfList qs)) (Query.toSqlList qs)
  | [] => by
      rw [Query.renderedOfList, Query.toSqlList]
      exact Yields.pure (AllAmong.nil _)
  | q :: qs => by
      rw [Query.renderedOfList, Query.toSqlList]
      refine (Query.yields_rendered q).bind fun _ _ hsql => ?_
      exact (Query.yields_renderedOfList qs).map fun _ hrest => AllAmong.cons hsql hrest

end

/-- **The text of a query holds the text of each query that is nested in it.** -/
theorem Query.within_toSql {q r : Query} {sql : String} (hsql : q.toSql = .ok sql)
    (hr : r ∈ q.rendered) : ∃ t, r.toSql = .ok t ∧ t.toList <:+: sql.toList := by
  obtain ⟨t, ht, -, hinfix⟩ := q.yields_rendered sql hsql r hr
  exact ⟨t, ht, hinfix⟩

end FluentSql
