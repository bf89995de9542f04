import FluentSql.Proofs.Alike
import FluentSql.Sql.Clause

/-! # Lists of alike texts

The ways to put pieces of SQL together, `Text.words`, `Text.fragments` and `Text.commaList`, make
alike texts of alike pieces (`AlikeAll`).  What is seen of the whole is what is seen of the pieces,
one after the other; pieces that are left out, because they are empty, show nothing. -/

namespace FluentSql

variable {f : String → String}

namespace Alike

/-! ### Literals and names -/

/-- A literal is alike to the literal of the other text. -/
theorem quote (s : String) : Alike f [] (Text.quote s) (Text.quote (f s)) :=
  ⟨[.string s], ⟨Token.read?_quote s, Token.read?_quote (f s)⟩, rfl⟩

theorem quoteName (cs : List Char) :
    Alike f [] (String.ofList (Identifier.quoteName cs))
      (String.ofList (Identifier.quoteName cs)) := by
  refine ⟨[Token.ofName cs], ⟨Token.read?_quoteName cs, ?_⟩, ?_⟩
  · rw [Token.read?_quoteName]
    unfold Token.ofName
    split <;> rfl
  · unfold Token.ofName
    split <;> rfl

end Alike

/-- Lists of alike texts, in which `ws` is seen from the first text to the last one. -/
inductive AlikeAll (f : String → String) : List String → List String → List String → Prop
  | nil : AlikeAll f [] [] []
  | cons {ws us : List String} {s s' : String} {ss ss' : List String} (head : Alike f ws s s')
      (tail : AlikeAll f us ss ss') : AlikeAll f (ws ++ us) (s :: ss) (s' :: ss')

namespace AlikeAll

theorem trim {ws ss ss' : List String} (h : AlikeAll f ws ss ss') :
    AlikeAll f ws (ss.map Text.trim) (ss'.map Text.trim) := by
  induction h with
  | nil => exact nil
  | cons head _ ih => exact cons head.trim ih

/-- Empty texts are at the same places, and show nothing. -/
theorem filter {ws ss ss' : List String} (h : AlikeAll f ws ss ss') :
    AlikeAll f ws (ss.filter (· ≠ "")) (ss'.filter (· ≠ "")) := by
  induction h with
  | nil => exact nil
  | @cons ws us s s' ss ss' head tail ih =>
      by_cases hs : s = ""
      · have hs' : s' = "" := head.eq_empty_iff.mp hs
        rw [hs] at head
        rw [List.filter_cons_of_neg (by simp [hs]), List.filter_cons_of_neg (by simp [hs']),
          head.eq_nil_of_empty]
        exact ih
      · have hs' : s' ≠ "" := fun h => hs (head.eq_empty_iff.mpr h)
        rw [List.filter_cons_of_pos (by simp [hs]), List.filter_cons_of_pos (by simp [hs'])]
        exact cons head ih

theorem eq_nil_iff {ws ss ss' : List String} (h : AlikeAll f ws ss ss') : ss = [] ↔ ss' = [] := by
  cases h <;> simp

/-- Texts with a fixed text between each two of them. -/
theorem intercalate {ws ss ss' : List String} (k : String) (hk : Fixed [] [] [] k)
    (hlead : Token.leads k) (hend : Token.endsApart (Token.ofText k)) (h : AlikeAll f ws ss ss') :
    Alike f ws (k.intercalate ss) (k.intercalate ss') := by
  induction h with
  | nil => exact Alike.empty
  | @cons ws us s s' ss ss' head tail ih =>
      cases tail with
      | nil =>
          rw [String.intercalate_singleton, String.intercalate_singleton, List.append_nil]
          exact head
      | cons next tail =>
          have hglue := Alike.glue k [] hk hlead hend head ih
          rw [String.intercalate_cons_cons, String.intercalate_cons_cons]
          exact hglue

theorem words {ws ss ss' : List String} (h : AlikeAll f ws ss ss') :
    Alike f ws (Text.words ss) (Text.words ss') :=
  h.filter.intercalate " " (by decide) (by decide) (by decide)

theorem fragments {ws ss ss' : List String} (h : AlikeAll f ws ss ss') :
    Alike f ws (Text.fragments ss) (Text.fragments ss') :=
  h.trim.words

theorem commaList {ws ss ss' : List String} (h : AlikeAll f ws ss ss') :
    Alike f ws (Text.commaList ss) (Text.commaList ss') :=
  h.intercalate ", " (by decide) (by decide) (by decide)

/-- Texts of which nothing is seen. -/
theorem map {α : Type} {xs : List α} {g h : α → String}
    (halike : ∀ x ∈ xs, Alike f [] (g x) (h x)) : AlikeAll f [] (xs.map g) (xs.map h) := by
  induction xs with
  | nil => exact nil
  | cons x xs ih =>
      exact cons (halike x List.mem_cons_self)
        (ih fun y hy => halike y (List.mem_cons_of_mem x hy))

end AlikeAll

end FluentSql
