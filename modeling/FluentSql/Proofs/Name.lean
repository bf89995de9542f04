import FluentSql.Identifier
import Mathlib.Data.List.DropRight

/-! # Names without alias

A text that carries no alias has none in any piece of it
(`Identifier.cutAlias?_eq_none_of_isInfix`), so the parts of a qualified name without alias are each
written in backticks and nothing else (`Identifier.quoteChars_of_splitAlias?`). -/

namespace FluentSql

theorem isInfix_intercalate {α : Type} {sep part : List α} {parts : List (List α)}
    (h : part ∈ parts) : part <:+: sep.intercalate parts := by
  induction parts with
  | nil => cases h
  | cons first parts ih =>
      cases parts with
      | nil =>
          rw [List.intercalate_singleton]
          exact List.mem_singleton.mp h ▸ List.infix_rfl
      | cons second parts =>
          rw [List.intercalate_cons_cons, List.append_assoc]
          rcases List.mem_cons.mp h with rfl | h
          · exact (List.prefix_append _ _).isInfix
          · rw [← List.append_assoc]
            exact (ih h).trans (List.suffix_append _ _).isInfix

theorem exists_intercalate_eq_cons {α : Type} (sep : List α) (a : α) (part : List α)
    (parts : List (List α)) : ∃ more, sep.intercalate ((a :: part) :: parts) = a :: more := by
  cases parts with
  | nil => exact ⟨part, by simp⟩
  | cons p parts =>
      refine ⟨part ++ (sep ++ sep.intercalate (p :: parts)), ?_⟩
      simp [List.intercalate_cons_cons]

namespace Identifier

/-- The parts of a name: the text itself when it has no dot, else the texts between its dots
without blanks at their ends. -/
def parts (id : Identifier) : List (List Char) :=
  match pieces id.raw.toList with
  | [_] => [id.raw.toList]
  | parts => parts.map Text.trimChars

/-! ### Alias separators in a longer text -/

theorem afterSeparator?_append {cs after : List Char} (h : afterSeparator? cs = some after)
    (ys : List Char) : ∃ after', afterSeparator? (cs ++ ys) = some after' := by
  unfold afterSeparator? at h ⊢
  split at h
  · rename_i a s b rest hdrop
    have happend : (cs ++ ys).dropWhile Text.isBlank = a :: s :: b :: (rest ++ ys) := by
      rw [List.dropWhile_append, hdrop]
      rfl
    rw [happend]
    split at h
    · rename_i hletters
      simp only [hletters, if_true]
      exact ⟨_, rfl⟩
    · cases h
  · cases h

theorem cutAlias?_append {xs : List Char} : ∀ {halves : List Char × List Char},
    cutAlias? xs = some halves →
      ∀ ys : List Char, ∃ halves', cutAlias? (xs ++ ys) = some halves' := by
  induction xs with
  | nil => exact fun h => nomatch h
  | cons c xs ih =>
      intro halves h ys
      rw [cutAlias?] at h
      rw [List.cons_append, cutAlias?]
      split
      · exact ⟨_, rfl⟩
      · rename_i hlong
        split at h
        · rename_i after hshort
          split at hshort
          · rename_i hblank
            obtain ⟨after', hafter⟩ := afterSeparator?_append hshort ys
            rw [if_pos hblank, hafter] at hlong
            cases hlong
          · cases hshort
        · obtain ⟨halves', hxs, -⟩ := Option.map_eq_some_iff.mp h
          obtain ⟨halves'', hys⟩ := ih hxs ys
          rw [hys]
          exact ⟨_, rfl⟩

theorem cutAlias?_of_suffix {xs ys : List Char} (h : cutAlias? (xs ++ ys) = none) :
    cutAlias? ys = none := by
  induction xs with
  | nil => exact h
  | cons c xs ih =>
      rw [List.cons_append, cutAlias?] at h
      refine ih ?_
      split at h
      · cases h
      · exact Option.map_eq_none_iff.mp h

/-- No part of a text without alias carries one. -/
theorem cutAlias?_eq_none_of_isInfix {xs ys : List Char} (hsub : xs <:+: ys)
    (hys : cutAlias? ys = none) : cutAlias? xs = none := by
  obtain ⟨as, bs, rfl⟩ := hsub
  rw [List.append_assoc] at hys
  have hrest := cutAlias?_of_suffix hys
  cases hxs : cutAlias? xs with
  | none => rfl
  | some halves =>
      obtain ⟨halves', h⟩ := cutAlias?_append hxs bs
      rw [hrest] at h
      cases h

theorem isInfix_trimChars (cs : List Char) : Text.trimChars cs <:+: cs := by
  have hend (ds : List Char) : Text.trimEnd ds <+: ds := List.rdropWhile_prefix Text.isBlank ds
  exact (hend _).isInfix.trans (List.dropWhile_suffix _).isInfix

theorem isInfix_of_mem_pieces {part cs : List Char} (h : part ∈ pieces cs) : part <:+: cs := by
  have hsub : part <:+: ['.'].intercalate (pieces cs) := isInfix_intercalate h
  rwa [pieces, List.intercalate_splitOn] at hsub

/-! ### Quoting -/

theorem ofList_intercalate (k : List Char) (css : List (List Char)) :
    String.ofList (k.intercalate css) = (String.ofList k).intercalate (css.map String.ofList) := by
  apply String.toList_injective
  rw [String.toList_intercalate, List.map_map]
  simp

theorem quotePart_of_cutAlias? {cs : List Char} (h : cutAlias? cs = none) :
    quotePart cs = quoteName cs := by
  rw [quotePart, splitChars?, h]
  rfl

theorem quoteChars_of_splitAlias? {id : Identifier} (h : id.splitAlias? = none) :
    quoteChars id.raw.toList = ['.'].intercalate (id.parts.map quoteName) := by
  have hcut : cutAlias? id.raw.toList = none := by
    simpa [splitAlias?, splitChars?] using h
  have hparts : (pieces id.raw.toList).map (fun part => quotePart (Text.trimChars part)) =
      ((pieces id.raw.toList).map Text.trimChars).map quoteName := by
    rw [List.map_map]
    refine List.map_congr_left fun part hmem => quotePart_of_cutAlias? ?_
    have hsub := (isInfix_trimChars part).trans (isInfix_of_mem_pieces hmem)
    exact cutAlias?_eq_none_of_isInfix hsub hcut
  rw [quoteChars, parts]
  generalize pieces id.raw.toList = ps at hparts
  rcases ps with _ | ⟨p, _ | ⟨q, ps⟩⟩
  · rfl
  · exact (quotePart_of_cutAlias? hcut).trans List.intercalate_singleton.symm
  · exact congrArg (['.'].intercalate ·) hparts

/-- A name without alias is its parts in backticks, with dots between them. -/
theorem quoted_of_splitAlias? {id : Identifier} (h : id.splitAlias? = none) :
    id.quoted = ".".intercalate (id.parts.map fun part => String.ofList (quoteName part)) := by
  rw [quoted, quoteChars_of_splitAlias? h, ofList_intercalate, List.map_map]
  rfl

theorem parts_ne_nil (id : Identifier) : id.parts ≠ [] := by
  have hne : pieces id.raw.toList ≠ [] := by
    simp [pieces]
  rw [parts]
  split
  · simp
  · simpa using hne

/-- Only `*` has the one part `*`. -/
theorem raw_eq_star {id : Identifier} (h : id.parts = [['*']]) : id.raw = "*" := by
  rw [parts] at h
  split at h
  · exact String.toList_injective (List.cons.inj h).1
  · rename_i hlone
    obtain ⟨part, hpart, -⟩ := List.map_eq_singleton_iff.mp h
    exact absurd hpart (hlone part)

end Identifier

end FluentSql
