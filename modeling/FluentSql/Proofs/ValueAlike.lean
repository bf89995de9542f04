import FluentSql.Proofs.Name
import FluentSql.Proofs.Pieces
import FluentSql.Proofs.Substitution

/-! # Values and column functions under substitution

The text of a value without raw SQL is alike to that of the value with other literals
(`Value.alike_sql`), and so is what a pipeline of column functions makes of alike texts
(`ColumnFunction.alike_applyAll`).  No head word of a clause shows in either. -/

namespace FluentSql

variable {f : String → String}

/-! ### Names -/

namespace Identifier

theorem alike_quotePart (cs : List Char) :
    Alike f [] (String.ofList (quotePart cs)) (String.ofList (quotePart cs)) := by
  unfold quotePart
  split
  · rename_i name aliasName _
    have hglue := Alike.join " AS " (by decide) (by decide) (by decide)
      (Alike.quoteName (f := f) name) (Alike.quoteName aliasName)
    rw [String.ofList_append, String.ofList_append, String.ofList_toList]
    exact hglue
  · exact Alike.quoteName cs

/-- A name is alike to itself. -/
theorem alike_quoted (id : Identifier) : Alike f [] id.quoted id.quoted := by
  unfold quoted quoteChars
  split
  · exact alike_quotePart _
  · rw [ofList_intercalate, List.map_map]
    exact (AlikeAll.map fun part _ => alike_quotePart (Text.trimChars part)).intercalate "."
      (by decide) (by decide) (by decide)

theorem alike_quotedList (ids : List Identifier) : Alike f [] (quotedList ids) (quotedList ids) :=
  (AlikeAll.map fun id _ => alike_quoted id).commaList

end Identifier

/-! ### Values -/

theorem Binary64.alike_sqlText (x : Binary64) : Alike f [] x.sqlText x.sqlText := by
  rcases x.sqlText_cases with h | h | h | h
  · rw [h]
    exact Alike.fixed (by decide)
  · rw [h]
    exact Alike.fixed (by decide)
  · rw [h]
    exact Alike.fixed (by decide)
  · exact Alike.number h

namespace Value

mutual

theorem alike_sql : ∀ v : Value, v.isRawFree → Alike f [] v.sql (v.mapStrings f).sql
  | .null, _ => Alike.fixed (by decide)
  | .bool true, _ => Alike.fixed (by decide)
  | .bool false, _ => Alike.fixed (by decide)
  | .int _, _ => Alike.number fun _ hc => isNumeric_of_mem_intText hc
  | .uint _, _ => Alike.number fun _ hc => isNumeric_of_mem_natText hc
  | .float x, _ => x.alike_sqlText
  | .string s, _ => Alike.quote s
  | .identifier id, _ => id.alike_quoted
  | .raw _, h => nomatch h
  | .array items, h => by
      have hitems := alike_sqlList items h
      exact hitems.commaList.enclosed "[" "]" ']' (by decide) (by decide) (by decide) (by decide)

theorem alike_sqlList : ∀ vs : List Value, isRawFreeList vs →
    AlikeAll f [] (sqlList vs) (sqlList (mapStringsList f vs))
  | [], _ => AlikeAll.nil
  | v :: vs, h => by
      obtain ⟨hv, hvs⟩ := (Bool.and_eq_true_iff).mp h
      exact AlikeAll.cons (alike_sql v hv) (alike_sqlList vs hvs)

end

end Value

theorem Tuple.alike_sql {vs : List Value} (h : Value.isRawFreeList vs) :
    Alike f [] (Tuple.sql ⟨vs⟩) (Tuple.sql ⟨Value.mapStringsList f vs⟩) :=
  (Value.alike_sqlList vs h).commaList

/-! ### Column functions -/

theorem Operator.alike_token (op : Operator) : Alike f [] op.token op.token := by
  cases op <;> exact Alike.fixed (by decide)

theorem Alike.parenthesized {ws : List String} {s s' : String} (h : Alike f ws s s') :
    Alike f [] ("(" ++ s ++ ")") ("(" ++ s' ++ ")") :=
  h.enclosed "(" ")" ')' (by decide) (by decide) (by decide) (by decide)

namespace ColumnFunction

theorem apply_round (previous : Option ColumnFunction) (inner : String) (decimals : Int32) :
    (round decimals).apply previous inner =
      "round(" ++ (inner ++ ", " ++ toString decimals.toInt) ++ ")" := by
  have h : (round decimals).apply previous inner =
      "round(" ++ inner ++ ", " ++ toString decimals.toInt ++ ")" := rfl
  rw [h]
  simp only [String.append_assoc]

theorem apply_sumIf (previous : Option ColumnFunction) (inner : String) (op : Operator)
    (v : Value) :
    (sumIf op v).apply previous inner =
      "sumIf(" ++ (inner ++ ", " ++ (op.token ++ " " ++ v.sql)) ++ ")" := by
  have h : (sumIf op v).apply previous inner =
      "sumIf(" ++ inner ++ ", " ++ op.token ++ " " ++ v.sql ++ ")" := rfl
  rw [h]
  simp only [String.append_assoc]

theorem apply_multiply_plus (inner : String) (v w : Value) :
    (multiply v).apply (some (plus w)) inner = "(" ++ inner ++ ")" ++ " * " ++ v.sql := by
  have h : (multiply v).apply (some (plus w)) inner = "(" ++ inner ++ ") * " ++ v.sql := rfl
  apply String.toList_injective
  rw [h]
  simp

theorem apply_multiply {previous : Option ColumnFunction} (h : ∀ w, previous ≠ some (plus w))
    (inner : String) (v : Value) : (multiply v).apply previous inner = inner ++ " * " ++ v.sql := by
  cases previous with
  | none => rfl
  | some g =>
      cases g with
      | plus w => exact absurd rfl (h w)
      | _ => rfl

/-- Whether a sum comes before a product does not depend on literals. -/
theorem alike_multiply {s s' : String} (h : Alike f [] s s') {v : Value} (hv : v.isRawFree)
    (previous : Option ColumnFunction) :
    Alike f [] ((multiply v).apply previous s)
      ((multiply (v.mapStrings f)).apply (previous.map (mapStrings f)) s') := by
  have hvalue := Value.alike_sql (f := f) v hv
  have hplain := h.join " * " (by decide) (by decide) (by decide) hvalue
  have hsum := h.parenthesized.join " * " (by decide) (by decide) (by decide) hvalue
  cases previous with
  | none => exact hplain
  | some g =>
      cases g with
      | plus w =>
          rw [Option.map_some, mapStrings, apply_multiply_plus, apply_multiply_plus]
          exact hsum
      | _ => exact hplain

theorem alike_apply {s s' : String} (h : Alike f [] s s') (previous : Option ColumnFunction) :
    ∀ g : ColumnFunction, g.isRawFree →
      Alike f [] (g.apply previous s)
        ((g.mapStrings f).apply (previous.map (mapStrings f)) s')
  | sum, _ => h.enclosed "sum(" ")" ')' (by decide) (by decide) (by decide) (by decide)
  | round decimals, _ => by
      have hnumber : Alike f [] (toString decimals.toInt) (toString decimals.toInt) :=
        Alike.number fun _ hc => isNumeric_of_mem_intText hc
      have harguments := h.join ", " (by decide) (by decide) (by decide) hnumber
      have hround : (round decimals).mapStrings f = round decimals := rfl
      rw [hround, apply_round, apply_round]
      exact harguments.enclosed "round(" ")" ')' (by decide) (by decide) (by decide) (by decide)
  | plus v, hv => h.join " + " (by decide) (by decide) (by decide) (Value.alike_sql v hv)
  | multiply v, hv => alike_multiply h hv previous
  | runningDifference, _ =>
      h.enclosed "runningDifference(" ")" ')' (by decide) (by decide) (by decide) (by decide)
  | count, _ => Alike.fixed (s := "count()") (by decide)
  | distinct, _ => h.behind "DISTINCT " [] (by decide) (by decide)
  | sumIf op v, hv => by
      have hcondition := op.alike_token.join " " (by decide) (by decide) (by decide)
        (Value.alike_sql (f := f) v hv)
      have harguments := h.join ", " (by decide) (by decide) (by decide) hcondition
      rw [mapStrings, apply_sumIf, apply_sumIf]
      exact harguments.enclosed "sumIf(" ")" ')' (by decide) (by decide) (by decide) (by decide)

theorem alike_applyAll {functions : List ColumnFunction} :
    ∀ (previous : Option ColumnFunction) {s s' : String}, functions.all isRawFree →
      Alike f [] s s' →
        Alike f [] (applyAll previous s functions)
          (applyAll (previous.map (mapStrings f)) s' (functions.map (mapStrings f))) := by
  induction functions with
  | nil => exact fun _ _ _ _ h => h
  | cons g functions ih =>
      intro previous s s' hfree h
      rw [List.all_cons, Bool.and_eq_true] at hfree
      exact ih (some g) hfree.2 (alike_apply h previous g hfree.1)

end ColumnFunction

end FluentSql
