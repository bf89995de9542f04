import FluentSql.Proofs.TermReading
import Mathlib.Data.List.SplitBy

/-! # Reading conditions

What the grammar of conditions reads from the lexemes of relations between terms, of negations and
groups (`Formula.Item`), and of several of these one after the other, linked by AND and OR: an OR of
maximal runs of AND (`Formula.takes_linked`). -/

namespace FluentSql

/-- The operators that compare two values. -/
def Operator.comparisons : List Operator :=
  [.eq, .notEq, .less, .lessOrEq, .greater, .greaterOrEq, .like, .ilike, .notLike]

/-- Comparisons and memberships are not about ranges. -/
theorem Operator.ne_between_of {op : Operator} (h : op ∈ comparisons ∨ op.isMembership) :
    op ≠ .between ∧ op ≠ .notBetween := by
  constructor <;> rintro rfl <;> exact absurd h (by decide)

theorem Operator.not_isMembership_of_mem_comparisons {op : Operator} (h : op ∈ comparisons) :
    ¬ op.isMembership := by
  have hall : ∀ op ∈ comparisons, ¬ op.isMembership := by decide
  exact hall op h

/-! ### Runs of AND -/

/-- Maximal runs of entries linked by AND, where each entry carries the conjunction in front of it;
that of the first entry does not matter. -/
def runs {α : Type} (entries : List (Conjunction × α)) : List (List (Conjunction × α)) :=
  entries.splitBy fun _ e => e.1 = .and

/-- Formulas one after the other, each with the conjunction in front of it: an OR of maximal runs of
AND. -/
def Formula.linked (entries : List (Conjunction × Formula)) : Formula :=
  anyOf ((runs entries).map fun run => allOf (run.map (·.2)))

section Runs

variable {α β : Type}

theorem flatten_runs (entries : List (Conjunction × α)) : (runs entries).flatten = entries :=
  List.flatten_splitBy _ entries

theorem ne_nil_of_mem_runs {entries run : List (Conjunction × α)} (h : run ∈ runs entries) :
    run ≠ [] :=
  List.ne_nil_of_mem_splitBy h

theorem mem_of_mem_runs {entries run : List (Conjunction × α)} (h : run ∈ runs entries)
    {e : Conjunction × α} (he : e ∈ run) : e ∈ entries := by
  rw [← flatten_runs entries]
  exact List.mem_flatten_of_mem h he

/-- The runs only depend on the conjunctions. -/
theorem runs_map (g : α → β) (entries : List (Conjunction × α)) :
    runs (entries.map (Prod.map id g)) = (runs entries).map (List.map (Prod.map id g)) := by
  refine List.splitBy_eq_iff.mpr ⟨?_, ?_, ?_, ?_⟩
  · rw [← List.map_flatten, flatten_runs]
  · intro hnil
    obtain ⟨run, hrun, hmap⟩ := List.mem_map.mp hnil
    exact ne_nil_of_mem_runs hrun (List.map_eq_nil_iff.mp hmap)
  · intro run' hrun'
    obtain ⟨run, hrun, rfl⟩ := List.mem_map.mp hrun'
    have hchain := List.isChain_of_mem_splitBy hrun
    exact (List.isChain_map _).mpr hchain
  · have hseams := List.isChain_getLast_head_splitBy (fun _ e => e.1 = .and) entries
    refine (List.isChain_map _).mpr (hseams.imp ?_)
    rintro a b ⟨ha, hb, hseam⟩
    refine ⟨by simpa using ha, by simpa using hb, ?_⟩
    rw [List.head_map]
    exact hseam

end Runs

/-- Lexemes of entries one after the other, each but the first with its conjunction in front. -/
def Lexeme.linked : List (Conjunction × List Lexeme) → List Lexeme
  | [] => []
  | e :: es => e.2 ++ es.flatMap fun d => .word d.1.token :: d.2

namespace Lexeme

theorem linked_append {es : List (Conjunction × List Lexeme)} (hne : es ≠ [])
    (d : Conjunction × List Lexeme) (ds : List (Conjunction × List Lexeme)) :
    linked (es ++ d :: ds) = linked es ++ (.word d.1.token :: linked (d :: ds)) := by
  obtain ⟨e, es, rfl⟩ := List.exists_cons_of_ne_nil hne
  simp only [linked, List.cons_append, List.flatMap_append, List.flatMap_cons, List.append_assoc]

/-- Within a run the lexemes are linked by AND. -/
theorem linked_run : ∀ {run : List (Conjunction × List Lexeme)},
    run.IsChain (fun _ e => decide (e.1 = .and)) →
      linked run = [word "AND"].intercalate (run.map (·.2))
  | [], _ => rfl
  | [e], _ => by simp [linked]
  | e :: d :: run, hchain => by
      obtain ⟨hand, hrest⟩ := List.isChain_cons_cons.mp hchain
      have hd : d.1 = .and := of_decide_eq_true hand
      have happend := linked_append (List.cons_ne_nil e []) d run
      rw [List.singleton_append, linked_run hrest, hd] at happend
      rw [happend]
      simp [linked, Conjunction.token, List.intercalate_cons_cons]

/-- Between runs the lexemes are linked by OR. -/
theorem linked_flatten : ∀ {rs : List (List (Conjunction × List Lexeme))}, [] ∉ rs →
    rs.IsChain (fun r s => ∃ (_ : r ≠ []) (hs : s ≠ []), decide ((s.head hs).1 = .and) = false) →
      linked rs.flatten = [word "OR"].intercalate (rs.map linked)
  | [], _, _ => rfl
  | [r], _, _ => by simp
  | r :: s :: rs, hne, hseams => by
      obtain ⟨⟨hr, hs, hor⟩, hrest⟩ := List.isChain_cons_cons.mp hseams
      have ih := linked_flatten (fun h => hne (List.mem_cons_of_mem r h)) hrest
      obtain ⟨d, ds, rfl⟩ := List.exists_cons_of_ne_nil hs
      have hd : d.1 = .or := by
        cases hc : d.1 with
        | and => simp [hc] at hor
        | or => rfl
      have happend := linked_append hr d (ds ++ rs.flatten)
      rw [List.flatten_cons, List.cons_append] at ih
      rw [List.flatten_cons, List.flatten_cons, List.cons_append, happend, ih, hd]
      simp [Conjunction.token, List.intercalate_cons_cons]

theorem linked_eq_runs (es : List (Conjunction × List Lexeme)) :
    linked es = [word "OR"].intercalate
      ((runs es).map fun run => [word "AND"].intercalate (run.map (·.2))) := by
  have hflatten := linked_flatten (List.nil_notMem_splitBy _ es)
    (List.isChain_getLast_head_splitBy (fun _ e => e.1 = .and) es)
  rw [List.flatten_splitBy] at hflatten
  rw [hflatten]
  congr 1
  exact List.map_congr_left fun run hrun => linked_run (List.isChain_of_mem_splitBy hrun)

end Lexeme

/-! ### Operators -/

/-- An operator is told from those that begin like it by the `=` that does not follow. -/
theorem takes_operator {ls : List Lexeme} {op : Operator} (h : (ls, op) ∈ writtenOperators) :
    readOperator.Takes [.symbol '='] ls op := by
  intro rest hrest
  have hskip : skip? [.symbol '='] rest = none :=
    skip?_eq_none fun l hl e => hrest l hl (by simp [e])
  have hall : ∀ e ∈ writtenOperators, readOperator (e.1 ++ rest) = some (e.2, rest) := by
    simp [readOperator, writtenOperators, skip?, hskip]
  exact hall (ls, op) h

/-- No operator begins with a dot. -/
theorem head_operator {ls : List Lexeme} {op : Operator} (h : (ls, op) ∈ writtenOperators) :
    ∃ l rest, ls = l :: rest ∧ l ∉ [Lexeme.symbol '.'] := by
  have hall : ∀ e ∈ writtenOperators, e.1 ≠ [] ∧ ∀ l ∈ e.1.head?, l ∉ [Lexeme.symbol '.'] := by
    decide
  obtain ⟨hne, hhead⟩ := hall _ h
  obtain ⟨l, rest, rfl⟩ := List.exists_cons_of_ne_nil hne
  exact ⟨l, rest, rfl, hhead l rfl⟩

/-- Comparisons and memberships are written as the grammar has them. -/
theorem read?_token {op : Operator} (h : op ∈ Operator.comparisons ∨ op.isMembership) :
    ∃ ls, Lexeme.read? op.token = some ls ∧ (ls, op) ∈ writtenOperators := by
  have hall : ∀ op : Operator, op ∈ Operator.comparisons ∨ op.isMembership →
      ∃ e ∈ writtenOperators, e.2 = op ∧ Lexeme.read? op.token = some e.1 := by
    intro op
    cases op <;> decide
  obtain ⟨⟨ls, _⟩, hmem, rfl, hread⟩ := hall op h
  exact ⟨ls, hread, hmem⟩

/-! ### Relations -/

namespace Formula

open Term (Written)

/-- The lexemes behind an operator do not go on with it. -/
def Follows (ls : List Lexeme) : Prop := ∃ l rest, ls = l :: rest ∧ l ≠ .symbol '='

theorem follows_of_written {ls : List Lexeme} {t : Term} (h : Written ls t) : Follows ls := by
  obtain ⟨⟨l, rest, rfl, hl⟩, -⟩ := h
  refine ⟨l, rest, rfl, ?_⟩
  rintro rfl
  exact hl (by decide)

/-- The two sides of a relation and the operator between them. -/
theorem takes_relation {lx lop lr ks : List Lexeme} {x : Term} {op : Operator} {φ : Formula}
    {n : Nat} (hx : Written lx x) (hlen : lx.length ≤ n) (hop : (lop, op) ∈ writtenOperators)
    (hfollows : Follows lr) (hright : (readRight (Term.read n) n x op).Takes ks lr φ) :
    (readRelation (Term.read n) n).Takes ks (lx ++ (lop ++ lr)) φ := by
  intro rest hrest
  obtain ⟨l, ls, hlop, hl⟩ := head_operator hop
  obtain ⟨r, rs, hlr, hr⟩ := hfollows
  have hfirst := hx.2 n hlen (lop ++ (lr ++ rest)) (by simpa [hlop] using hl)
  have hoperator := takes_operator hop (lr ++ rest) (by simpa [hlr] using hr)
  rw [List.append_assoc, List.append_assoc, readRelation, hfirst, Option.bind_some, hoperator,
    Option.bind_some]
  exact hright rest hrest

/-- The bounds of a range. -/
theorem takes_range {llow lhigh : List Lexeme} {x low high : Term} {n : Nat}
    (hlow : Written llow low) (hlowlen : llow.length ≤ n) (hhigh : Written lhigh high)
    (hhighlen : lhigh.length ≤ n) :
    (readRange (Term.read n) x).Takes [.symbol '.'] (llow ++ (.word "AND" :: lhigh))
      (between x low high) := by
  intro rest hrest
  have hfirst := hlow.2 n hlowlen (.word "AND" :: (lhigh ++ rest)) (by simp)
  rw [List.append_assoc, List.cons_append, readRange, hfirst, Option.bind_some, skip?_self,
    Option.bind_some, hhigh.2 n hhighlen rest hrest]
  rfl

/-! ### Conditions -/

/-- The lexemes `ls` are read as the condition `φ`, without AND and OR outside parentheses. -/
def Item (ls : List Lexeme) (φ : Formula) : Prop :=
  ls ≠ [] ∧ ∀ n, ls.length ≤ n + 1 → (readItem (read n) (n + 1)).Takes [.symbol '.'] ls φ

/-- A relation does not begin with NOT or a parenthesis. -/
theorem item_of_relation {lx ls : List Lexeme} {x : Term} {φ : Formula} (hx : Written lx x)
    (h : ∀ n, (lx ++ ls).length ≤ n →
      (readRelation (Term.read n) n).Takes [.symbol '.'] (lx ++ ls) φ) :
    Item (lx ++ ls) φ := by
  obtain ⟨⟨l, rest, rfl, hl⟩, -⟩ := hx
  refine ⟨by simp, ?_⟩
  intro n hn ms hms
  have hnot : l ≠ .word "NOT" := by
    rintro rfl
    exact hl (by decide)
  have hparen : l ≠ .symbol '(' := by
    rintro rfl
    exact hl (by decide)
  have hrelation := h (n + 1) hn ms hms
  rw [List.cons_append, List.cons_append] at hrelation ⊢
  rw [readItem, readNegation, if_neg hnot, readPrimary, if_neg (by simpa using hparen)]
  exact hrelation

theorem item_not {ls : List Lexeme} {φ : Formula} (h : Item ls φ) :
    Item (.word "NOT" :: ls) (not φ) := by
  refine ⟨by simp, ?_⟩
  intro n hn rest hrest
  have hinner := h.2 n (Nat.le_of_succ_le hn) rest hrest
  rw [readItem] at hinner ⊢
  rw [List.cons_append, readNegation, if_pos rfl, hinner]
  rfl

/-- A condition in parentheses. -/
theorem item_group {ls ks : List Lexeme} {φ : Formula} (hks : .symbol ')' ∉ ks)
    (h : ∀ n, ls.length ≤ n → (read n).Takes ks ls φ) :
    Item (.symbol '(' :: (ls ++ [.symbol ')'])) φ := by
  refine ⟨by simp, ?_⟩
  intro n hn rest _
  rw [List.length_cons, List.length_append, List.length_singleton] at hn
  have hbracketed := ((h n (by omega)).bracketed (o := '(') hks) rest (by simp)
  rw [List.cons_append] at hbracketed ⊢
  rw [readItem, readNegation, if_neg (by decide), readPrimary, if_pos List.head?_cons]
  exact hbracketed

theorem item_compare {lx lop ly : List Lexeme} {x y : Term} {op : Operator} (hx : Written lx x)
    (hop : (lop, op) ∈ writtenOperators) (hcompare : op ∈ Operator.comparisons)
    (hy : Written ly y) : Item (lx ++ (lop ++ ly)) (compare op x y) := by
  refine item_of_relation hx ?_
  intro n hn
  rw [List.length_append, List.length_append] at hn
  have hmember := Operator.not_isMembership_of_mem_comparisons hcompare
  obtain ⟨hbetween, hnotBetween⟩ := Operator.ne_between_of (.inl hcompare)
  have hright : (readRight (Term.read n) n x op).Takes [.symbol '.'] ly (compare op x y) := by
    rw [readRight, if_neg hmember, if_neg hbetween, if_neg hnotBetween]
    exact (hy.2 n (by omega)).map (compare op x)
  exact takes_relation hx (by omega) hop (follows_of_written hy) hright

theorem item_member {lx lop : List Lexeme} {x : Term} {op : Operator}
    {items : List (List Lexeme × Term)} (hx : Written lx x) (hop : (lop, op) ∈ writtenOperators)
    (hmember : op.isMembership) (hne : items ≠ []) (hitems : ∀ i ∈ items, Written i.1 i.2) :
    Item (lx ++ (lop ++ (.symbol '(' :: (Term.listed items ++ [.symbol ')']))))
      (member op x (items.map (·.2))) := by
  refine item_of_relation hx ?_
  intro n hn
  rw [List.length_append, List.length_append, List.length_cons, List.length_append] at hn
  have hlist := Term.takes_listed hne hitems (n := n) (by omega)
  have hbracketed := (hlist.bracketed (o := '(') (c := ')') (by decide)).map (member op x)
  have hright : (readRight (Term.read n) n x op).Takes [.symbol '.']
      (.symbol '(' :: (Term.listed items ++ [.symbol ')'])) (member op x (items.map (·.2))) := by
    rw [readRight, if_pos hmember]
    exact hbracketed.mono (List.nil_subset _)
  exact takes_relation hx (by omega) hop ⟨_, _, rfl, by decide⟩ hright

theorem item_between {lx lop llow lhigh : List Lexeme} {x low high : Term} (hx : Written lx x)
    (hop : (lop, .between) ∈ writtenOperators) (hlow : Written llow low)
    (hhigh : Written lhigh high) :
    Item (lx ++ (lop ++ (llow ++ (.word "AND" :: lhigh)))) (between x low high) := by
  refine item_of_relation hx ?_
  intro n hn
  simp only [List.length_append, List.length_cons] at hn
  have hright : (readRight (Term.read n) n x .between).Takes [.symbol '.']
      (llow ++ (.word "AND" :: lhigh)) (between x low high) :=
    takes_range hlow (by omega) hhigh (by omega)
  have hfollows : Follows (llow ++ (.word "AND" :: lhigh)) := by
    obtain ⟨l, rest, rfl, hl⟩ := follows_of_written hlow
    exact ⟨l, _, rfl, hl⟩
  exact takes_relation hx (by omega) hop hfollows hright

/-! ### Conditions one after the other -/

/-- A condition linked by AND to others. -/
def Run (ls : List Lexeme) (φ : Formula) : Prop :=
  ls ≠ [] ∧
    ∀ n, ls.length ≤ n + 1 → (readRun (read n) (n + 1)).Takes [.word "AND", .symbol '.'] ls φ

theorem run_of_items {items : List (List Lexeme × Formula)} (hne : items ≠ [])
    (hitems : ∀ i ∈ items, Item i.1 i.2) :
    Run ([Lexeme.word "AND"].intercalate (items.map (·.1))) (allOf (items.map (·.2))) := by
  have hnonempty : ∀ i ∈ items, i.1 ≠ [] := fun i hi => (hitems i hi).1
  refine ⟨intercalate_ne_nil _ (by simpa using hne) (by simpa using hnonempty), ?_⟩
  intro n hn
  exact (Reader.Takes.separated_of_length_le (by decide) hne hnonempty hn
    fun i hi => (hitems i hi).2 n).map allOf

/-- Conditions linked by OR and AND. -/
theorem takes_of_runs {items : List (List Lexeme × Formula)} (hne : items ≠ [])
    (hitems : ∀ i ∈ items, Run i.1 i.2) {n : Nat}
    (hn : ([Lexeme.word "OR"].intercalate (items.map (·.1))).length ≤ n) :
    (read n).Takes [.word "OR", .word "AND", .symbol '.']
      ([Lexeme.word "OR"].intercalate (items.map (·.1))) (anyOf (items.map (·.2))) := by
  have hnonempty : ∀ i ∈ items, i.1 ≠ [] := fun i hi => (hitems i hi).1
  have hlexemes : [Lexeme.word "OR"].intercalate (items.map (·.1)) ≠ [] :=
    intercalate_ne_nil _ (by simpa using hne) (by simpa using hnonempty)
  have hpos := List.length_pos_iff.mpr hlexemes
  obtain ⟨n, rfl⟩ := Nat.exists_eq_add_of_le' (Nat.le_trans hpos hn)
  exact (Reader.Takes.separated_of_length_le (by decide) hne hnonempty hn
    fun i hi => (hitems i hi).2 n).map anyOf

/-- **Conditions with their conjunctions are read as an OR of maximal runs of AND.** -/
theorem takes_linked {es : List (Conjunction × List Lexeme × Formula)} (hne : es ≠ [])
    (hitems : ∀ e ∈ es, Item e.2.1 e.2.2) {n : Nat}
    (hn : (Lexeme.linked (es.map (Prod.map id Prod.fst))).length ≤ n) :
    (read n).Takes [.word "OR", .word "AND", .symbol '.']
      (Lexeme.linked (es.map (Prod.map id Prod.fst))) (linked (es.map (Prod.map id Prod.snd))) := by
  -- A run is one item: its lexemes and its formula.
  let together (run : List (Conjunction × List Lexeme × Formula)) : List Lexeme × Formula :=
    ([Lexeme.word "AND"].intercalate (run.map (·.2.1)), allOf (run.map (·.2.2)))
  have hruns : ∀ i ∈ (runs es).map together, Run i.1 i.2 := by
    intro i hi
    obtain ⟨run, hrun, rfl⟩ := List.mem_map.mp hi
    have hrunne : run.map (·.2) ≠ [] := by simpa using ne_nil_of_mem_runs hrun
    have hrunitems : ∀ j ∈ run.map (·.2), Item j.1 j.2 := by
      intro j hj
      obtain ⟨e, he, rfl⟩ := List.mem_map.mp hj
      exact hitems e (mem_of_mem_runs hrun he)
    have hall := run_of_items hrunne hrunitems
    rw [List.map_map, List.map_map] at hall
    exact hall
  have hlexemes : Lexeme.linked (es.map (Prod.map id Prod.fst)) =
      [Lexeme.word "OR"].intercalate (((runs es).map together).map (·.1)) := by
    rw [Lexeme.linked_eq_runs, runs_map]
    simp [together, Function.comp_def]
  have hformula : linked (es.map (Prod.map id Prod.snd)) =
      anyOf (((runs es).map together).map (·.2)) := by
    rw [linked, runs_map]
    simp [together, Function.comp_def]
  have hrunsne : (runs es).map together ≠ [] := by
    intro hnil
    exact hne (List.splitBy_eq_nil.mp (List.map_eq_nil_iff.mp hnil))
  rw [hlexemes] at hn ⊢
  rw [hformula]
  exact takes_of_runs hrunsne hruns hn

/-- A condition alone. -/
theorem Item.takes {ls : List Lexeme} {φ : Formula} (h : Item ls φ) {n : Nat} (hn : ls.length ≤ n) :
    (read n).Takes [.word "OR", .word "AND", .symbol '.'] ls φ := by
  have hlexemes : Lexeme.linked [(Conjunction.and, ls)] = ls := by simp [Lexeme.linked]
  have hitems : ∀ e ∈ [(Conjunction.and, ls, φ)], Item e.2.1 e.2.2 := by simpa using h
  have hone := takes_linked (List.cons_ne_nil _ _) hitems (n := n) (by simpa [hlexemes] using hn)
  simp only [List.map_cons, List.map_nil, Prod.map_apply, id_eq, hlexemes] at hone
  exact hone

end Formula

end FluentSql
