import FluentSql.Proofs.Arithmetic
import FluentSql.Proofs.ConditionReading
import FluentSql.Proofs.Star
import FluentSql.Proofs.ValueAlike
import FluentSql.Query.Column

/-! # Column functions as expressions

A pipeline of functions is written as one expression, in parentheses only where a product is put
around a sum.  Whatever the pipeline is, the expression has one tree, and that is the composition of
its functions from left to right (`Column.exists_isTree_iff`).  What makes this so is that the text
at hand is a product unless the last function added something to it (`Arith.IsBuilt`). -/

namespace FluentSql

/-! ### What a column means -/

/-- Integers, and names other than `*` without alias. -/
inductive Value.IsOperand : Value → Prop
  | int (n : Int64) : IsOperand (.int n)
  | uint (n : UInt64) : IsOperand (.uint n)
  | identifier {id : Identifier} (hstar : id.raw ≠ "*") (halias : id.splitAlias? = none) :
      IsOperand (.identifier id)

def Value.operand? (v : Value) : Option Arith := v.term?.bind Arith.ofTerm?

/-- All functions but DISTINCT, on operands. -/
inductive ColumnFunction.IsArithmetic : ColumnFunction → Prop
  | sum : IsArithmetic .sum
  | round (decimals : Int32) : IsArithmetic (.round decimals)
  | plus {v : Value} (hv : v.IsOperand) : IsArithmetic (.plus v)
  | multiply {v : Value} (hv : v.IsOperand) : IsArithmetic (.multiply v)
  | runningDifference : IsArithmetic .runningDifference
  | count : IsArithmetic .count
  | sumIf {v : Value} (op : Operator) (hv : v.IsOperand) : IsArithmetic (.sumIf op v)

/-- The expression that a function makes of the expression `e`. -/
def ColumnFunction.composed? (e : Arith) : ColumnFunction → Option Arith
  | sum => some (.sum e)
  | round decimals => some (.round e decimals.toInt)
  | plus v => v.operand?.map (.plus e)
  | multiply v => v.operand?.map (.times e)
  | runningDifference => some (.runningDifference e)
  | count => some .count
  | distinct => none
  | sumIf op v => v.operand?.map (.sumIf e op)

/-- Columns on an operand or on another such column, which has no alias of its own. -/
inductive Column.IsArithmetic : Column → Prop
  | value {v : Value} {aliasName : Option Identifier} {functions : List ColumnFunction}
      (hv : v.IsOperand) (hfunctions : ∀ f ∈ functions, f.IsArithmetic) :
      IsArithmetic ⟨some (.value v), aliasName, functions⟩
  | nested {c : Column} {aliasName : Option Identifier} {functions : List ColumnFunction}
      (hc : c.IsArithmetic) (halias : c.aliasName = none)
      (hfunctions : ∀ f ∈ functions, f.IsArithmetic) :
      IsArithmetic ⟨some (.column c), aliasName, functions⟩

mutual

def ColumnSource.arith? : ColumnSource → Option Arith
  | .value v => v.operand?
  | .column c => c.arith?
  | .query _ => none

/-- The functions of a column composed from left to right. -/
def Column.arith? : Column → Option Arith
  | ⟨some source, _, functions⟩ =>
      source.arith?.bind fun e => functions.foldlM ColumnFunction.composed? e
  | ⟨none, _, _⟩ => none

end

/-! ### Operands and calls in lexemes -/

open Arith (Derives)

theorem Operator.read?_token (op : Operator) : Lexeme.read? op.token = some op.lexemes := by
  cases op <;> decide

theorem Value.IsOperand.derives {v : Value} (h : v.IsOperand) :
    ∃ ls e, Lexeme.read? v.sql = some ls ∧ v.operand? = some e ∧ Derives .atom ls e := by
  cases h with
  | int n =>
      obtain ⟨ls, hls, hinteger⟩ := exists_isInteger_intText n.toInt
      exact ⟨ls, _, hls, rfl, .int hinteger⟩
  | uint n => exact ⟨_, _, read?_natText n.toNat, rfl, .int (.natural (number?_natText n.toNat))⟩
  | @identifier id hstar halias =>
      obtain ⟨p, ps, hparts, hls⟩ := exists_read?_quoted halias
      have hne := parts_ne_star hstar
      have hoperand : operand? (.identifier id) = some (.name (p :: ps)) := by
        rw [← hparts]
        rfl
      rw [hparts] at hne
      exact ⟨_, _, hls, hoperand, .name hne⟩

/-- A function in lower case, its arguments and a parenthesis. -/
theorem Lexeme.read?_call {k w s : String} {ls : List Lexeme} (hk : k.toList.all Token.isPlain)
    (hend : Token.endsApart (Token.ofText k)) (hword : ofText k = [.word w, .symbol '('])
    (h : read? s = some ls) : read? (k ++ s ++ ")") = some (Lexeme.call w ls) := by
  have htext := read?_before ")" (by decide) (by decide) (read?_behind k hk hend h)
  rw [hword] at htext
  exact htext

/-! ### Pipelines -/

namespace Arith

/-- The text `sql` is the expression `e`; it is a product unless the function `previous` made a sum
of it. -/
def IsBuilt (previous : Option ColumnFunction) (sql : String) (e : Arith) : Prop :=
  ∃ ls, Lexeme.read? sql = some ls ∧ Derives .sum ls e ∧
    ((∀ v, previous ≠ some (.plus v)) → Derives .product ls e)

theorem IsBuilt.of_atom {previous : Option ColumnFunction} {sql : String} {ls : List Lexeme}
    {e : Arith} (hls : Lexeme.read? sql = some ls) (h : Derives .atom ls e) :
    IsBuilt previous sql e :=
  ⟨ls, hls, .sum (.product h), fun _ => .product h⟩

variable {previous : Option ColumnFunction} {sql : String} {e : Arith}

theorem IsBuilt.plus (h : IsBuilt previous sql e) {v : Value} (hv : v.IsOperand) :
    ∃ x, v.operand? = some x ∧
      IsBuilt (some (.plus v)) ((ColumnFunction.plus v).apply previous sql) (.plus e x) := by
  obtain ⟨ls, hls, hsum, -⟩ := h
  obtain ⟨ms, x, hms, hx, hderives⟩ := hv.derives
  have htext := Lexeme.read?_glue " + " (by decide) (by decide) (by decide) hls hms
  exact ⟨x, hx, _, htext, hsum.plus (.product hderives), fun hno => absurd rfl (hno v)⟩

/-- A product around a sum has it in parentheses; around anything else that would change nothing. -/
theorem IsBuilt.multiply (h : IsBuilt previous sql e) {v : Value} (hv : v.IsOperand) :
    ∃ x, v.operand? = some x ∧
      IsBuilt (some (.multiply v)) ((ColumnFunction.multiply v).apply previous sql)
        (.times e x) := by
  obtain ⟨ls, hls, hsum, hproduct⟩ := h
  obtain ⟨ms, x, hms, hx, hderives⟩ := hv.derives
  refine ⟨x, hx, ?_⟩
  by_cases hprevious : ∃ w, previous = some (.plus w)
  · -- the sum goes into parentheses, which makes an atom of it
    obtain ⟨w, rfl⟩ := hprevious
    have htext := Lexeme.read?_glue " * " (by decide) (by decide) (by decide)
      (Lexeme.read?_parenthesized hls) hms
    rw [ColumnFunction.apply_multiply_plus]
    have hderives := (Derives.parentheses hsum).product.times hderives
    exact ⟨_, htext, hderives.sum, fun _ => hderives⟩
  · -- without parentheses the text at hand must be a product already
    have hno : ∀ w, previous ≠ some (.plus w) := fun w hw => hprevious ⟨w, hw⟩
    have htext := Lexeme.read?_glue " * " (by decide) (by decide) (by decide) hls hms
    have hderives := (hproduct hno).times hderives
    rw [ColumnFunction.apply_multiply hno]
    exact ⟨_, htext, hderives.sum, fun _ => hderives⟩

theorem IsBuilt.round (h : IsBuilt previous sql e) (decimals : Int32) :
    IsBuilt (some (.round decimals)) ((ColumnFunction.round decimals).apply previous sql)
      (.round e decimals.toInt) := by
  obtain ⟨ls, hls, hsum, -⟩ := h
  obtain ⟨ms, hms, hinteger⟩ := exists_isInteger_intText decimals.toInt
  have harguments := Lexeme.read?_glue ", " (by decide) (by decide) (by decide) hls hms
  rw [ColumnFunction.apply_round]
  exact .of_atom (Lexeme.read?_call (by decide) (by decide) (by decide) harguments)
    (.callRound hsum hinteger)

theorem IsBuilt.sumIf (h : IsBuilt previous sql e) (op : Operator) {v : Value}
    (hv : v.IsOperand) :
    ∃ x, v.operand? = some x ∧
      IsBuilt (some (.sumIf op v)) ((ColumnFunction.sumIf op v).apply previous sql)
        (.sumIf e op x) := by
  obtain ⟨ls, hls, hsum, -⟩ := h
  obtain ⟨ms, x, hms, hx, hderives⟩ := hv.derives
  have hcondition := Lexeme.read?_glue " " (by decide) (by decide) (by decide) op.read?_token hms
  have harguments := Lexeme.read?_glue ", " (by decide) (by decide) (by decide) hls hcondition
  refine ⟨x, hx, ?_⟩
  rw [ColumnFunction.apply_sumIf]
  exact .of_atom (Lexeme.read?_call (by decide) (by decide) (by decide) harguments)
    (.callSumIf op hsum hderives)

/-- **One function more.** -/
theorem IsBuilt.apply (h : IsBuilt previous sql e) {f : ColumnFunction} (hf : f.IsArithmetic) :
    ∃ e', f.composed? e = some e' ∧ IsBuilt (some f) (f.apply previous sql) e' := by
  obtain ⟨ls, hls, hsum, -⟩ := id h
  cases hf with
  | sum =>
      exact ⟨_, rfl, .of_atom (Lexeme.read?_call (by decide) (by decide) (by decide) hls)
        (.callSum hsum)⟩
  | round decimals => exact ⟨_, rfl, h.round decimals⟩
  | plus hv =>
      obtain ⟨x, hx, hbuilt⟩ := h.plus hv
      exact ⟨_, by rw [ColumnFunction.composed?, hx]; rfl, hbuilt⟩
  | multiply hv =>
      obtain ⟨x, hx, hbuilt⟩ := h.multiply hv
      exact ⟨_, by rw [ColumnFunction.composed?, hx]; rfl, hbuilt⟩
  | runningDifference =>
      exact ⟨_, rfl, .of_atom (Lexeme.read?_call (by decide) (by decide) (by decide) hls)
        (.callRunningDifference hsum)⟩
  | count =>
      have htext : Lexeme.read? "count()" = some (Lexeme.call "COUNT" []) := by decide
      exact ⟨_, rfl, .of_atom htext .callCount⟩
  | sumIf op hv =>
      obtain ⟨x, hx, hbuilt⟩ := h.sumIf op hv
      exact ⟨_, by rw [ColumnFunction.composed?, hx]; rfl, hbuilt⟩

/-- A whole pipeline. -/
theorem IsBuilt.applyAll {functions : List ColumnFunction} :
    ∀ {previous : Option ColumnFunction} {sql : String} {e : Arith},
      IsBuilt previous sql e → (∀ f ∈ functions, f.IsArithmetic) →
        ∃ e', functions.foldlM ColumnFunction.composed? e = some e' ∧
          IsTree (ColumnFunction.applyAll previous sql functions) e' := by
  induction functions with
  | nil =>
      intro previous sql e h _
      obtain ⟨ls, hls, hsum, -⟩ := h
      exact ⟨e, rfl, ls, hls, hsum⟩
  | cons f functions ih =>
      intro previous sql e h hfunctions
      obtain ⟨hf, hfunctions⟩ := List.forall_mem_cons.mp hfunctions
      obtain ⟨e₁, he₁, hbuilt⟩ := h.apply hf
      obtain ⟨e₂, he₂, htree⟩ := ih hbuilt hfunctions
      refine ⟨e₂, ?_, htree⟩
      rw [List.foldlM_cons, he₁]
      exact he₂

end Arith

/-! ### Columns -/

namespace Column

theorem toSql_of_source {source : ColumnSource} {inner : String} (h : source.toSql = .ok inner)
    (aliasName : Option Identifier) (functions : List ColumnFunction) :
    toSql ⟨some source, aliasName, functions⟩ =
      .ok (aliased (ColumnFunction.applyAll none inner functions) aliasName) := by
  rw [toSql_eq, ColumnSource.toSqlOrNothing, h]
  rfl

/-- A column whose source is written as an atom. -/
theorem exists_isTree_of_source {source : ColumnSource} {inner : String} {ls : List Lexeme}
    {e : Arith} (hinner : source.toSql = .ok inner) (he : source.arith? = some e)
    (hls : Lexeme.read? inner = some ls) (hderives : Derives .atom ls e)
    (aliasName : Option Identifier) {functions : List ColumnFunction}
    (hfunctions : ∀ f ∈ functions, f.IsArithmetic) :
    ∃ sql e', toSql ⟨some source, none, functions⟩ = .ok sql ∧
      toSql ⟨some source, aliasName, functions⟩ = .ok (aliased sql aliasName) ∧
        arith? ⟨some source, aliasName, functions⟩ = some e' ∧ Arith.IsTree sql e' := by
  have hbuilt : Arith.IsBuilt none inner e := .of_atom hls hderives
  obtain ⟨e', he', htree⟩ := hbuilt.applyAll hfunctions
  refine ⟨_, e', toSql_of_source hinner none functions,
    toSql_of_source hinner aliasName functions, ?_, htree⟩
  rw [arith?, he]
  exact he'

theorem exists_isTree {c : Column} (h : c.IsArithmetic) :
    ∃ sql e, toSql { c with aliasName := none } = .ok sql ∧
      c.toSql = .ok (aliased sql c.aliasName) ∧ c.arith? = some e ∧ Arith.IsTree sql e := by
  induction h with
  | @value v aliasName functions hv hfunctions =>
      obtain ⟨ls, e, hls, he, hderives⟩ := hv.derives
      exact exists_isTree_of_source (ColumnSource.toSql_value v) (by rw [ColumnSource.arith?, he])
        hls hderives aliasName hfunctions
  | @nested c aliasName functions hc halias hfunctions ih =>
      obtain ⟨sql, e, -, hsql, he, ls, hls, hsum⟩ := ih
      rw [halias, aliased] at hsql
      have hinner : ColumnSource.toSql (.column c) = .ok (parenthesized sql) := by
        rw [ColumnSource.toSql, hsql]
        rfl
      exact exists_isTree_of_source hinner (by rw [ColumnSource.arith?, he])
        (Lexeme.read?_parenthesized hls) (.parentheses hsum) aliasName hfunctions

/-- **A pipeline of column functions is one expression, with one tree**: the composition of the
functions from left to right, whatever their order and however deep columns nest. -/
theorem exists_isTree_iff {c : Column} (h : c.IsArithmetic) :
    ∃ sql e, toSql { c with aliasName := none } = .ok sql ∧
      c.toSql = .ok (aliased sql c.aliasName) ∧ c.arith? = some e ∧
        ∀ e', Arith.IsTree sql e' ↔ e' = e := by
  obtain ⟨sql, e, hbare, hsql, he, htree⟩ := exists_isTree h
  refine ⟨sql, e, hbare, hsql, he, fun e' => ⟨fun htree' => htree'.unique htree, ?_⟩⟩
  rintro rfl
  exact htree

/-- A product around a sum, in a column that is itself a factor of another one. -/
theorem isTree_iff_price :
    let inner : Column :=
      ((named (.ofName "price")).apply (.plus (.int 1))).apply (.multiply (.int 2))
    let c : Column :=
      (((named (.column inner)).apply (.multiply (.int (-3)))).apply (.round 2)).setAlias ⟨"p"⟩
    c.IsArithmetic ∧ c.toSql = .ok "round(((`price` + 1) * 2) * -3, 2) AS `p`" ∧
      ∀ e, Arith.IsTree "round(((`price` + 1) * 2) * -3, 2)" e ↔
        e = .round (.times (.times (.plus (.name [.name "price"]) (.int 1)) (.int 2)) (.int (-3)))
          2 := by
  intro inner c
  have hprice : (⟨"price"⟩ : Identifier).splitAlias? = none := by decide
  have hinner : inner.IsArithmetic := .value (.identifier (by decide) hprice)
    (List.forall_mem_cons.mpr ⟨.plus (.int 1), List.forall_mem_singleton.mpr (.multiply (.int 2))⟩)
  have hc : c.IsArithmetic := .nested hinner rfl
    (List.forall_mem_cons.mpr ⟨.multiply (.int (-3)), List.forall_mem_singleton.mpr (.round 2)⟩)
  obtain ⟨sql, e, hbare, -, he, htree⟩ := exists_isTree_iff hc
  have htext : toSql { c with aliasName := none } =
      .ok "round(((`price` + 1) * 2) * -3, 2)" := rfl
  obtain rfl := Except.ok.inj (hbare.symm.trans htext)
  obtain rfl := Option.some.inj he
  exact ⟨hc, rfl, htree⟩

end Column

end FluentSql
