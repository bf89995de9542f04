import FluentSql.Proofs.NameReading

/-! # Ink

The ink of a text is the number of its characters that are neither blanks nor backticks.  Quoting a
name puts backticks around its parts and drops blanks at their ends, and it writes an alias
separator again as a word of two letters; so the quoted name has the ink of the raw text
(`Identifier.ink_quoted`).  A name without the alias that it carried has less
(`Identifier.ink_withoutAlias_lt`). -/

namespace FluentSql

/-- Whether a character counts as ink. -/
def isInk (c : Char) : Bool := !Text.isBlank c && c ≠ Identifier.backtick

/-- The number of characters that are neither blanks nor backticks. -/
def Text.ink (cs : List Char) : Nat := cs.countP isInk

namespace Text

@[simp] theorem ink_nil : ink [] = 0 := rfl

@[simp] theorem ink_append (cs ds : List Char) : ink (cs ++ ds) = ink cs + ink ds :=
  List.countP_append

theorem ink_cons (c : Char) (cs : List Char) : ink (c :: cs) = ink [c] + ink cs :=
  ink_append [c] cs

theorem ink_of_isBlank {cs : List Char} (h : ∀ c ∈ cs, isBlank c) : ink cs = 0 :=
  List.countP_eq_zero.mpr fun c hc => by simp [isInk, h c hc]

theorem ink_dropWhile (cs : List Char) : ink (cs.dropWhile isBlank) = ink cs := by
  have hblank : ink (cs.takeWhile isBlank) = 0 :=
    ink_of_isBlank fun c hc => List.mem_takeWhile_imp hc
  conv_rhs => rw [← List.takeWhile_append_dropWhile (p := isBlank) (l := cs), ink_append, hblank]
  rw [Nat.zero_add]

theorem ink_reverse (cs : List Char) : ink cs.reverse = ink cs := List.countP_reverse

theorem ink_trimChars (cs : List Char) : ink (trimChars cs) = ink cs := by
  rw [trimChars, trimEnd, ink_reverse, ink_dropWhile, ink_reverse, ink_dropWhile]

/-- Texts with the same ink in each part, with the same separator between the parts. -/
theorem ink_intercalate_eq {α : Type} (sep : List Char) {f g : α → List Char} (xs : List α)
    (h : ∀ x ∈ xs, ink (f x) = ink (g x)) :
    ink (sep.intercalate (xs.map f)) = ink (sep.intercalate (xs.map g)) := by
  induction xs with
  | nil => rfl
  | cons x xs ih =>
      obtain ⟨hx, hxs⟩ := List.forall_mem_cons.mp h
      cases xs with
      | nil => simpa using hx
      | cons y xs =>
          have hrest := ih hxs
          simp only [List.map_cons] at hrest
          simp only [List.map_cons, List.intercalate_cons_cons, ink_append, hx, hrest]

end Text

open Text (ink ink_append ink_cons ink_trimChars ink_of_isBlank)

namespace Identifier

/-! ### Quoted names -/

theorem ink_doubleBackticks (cs : List Char) : ink (doubleBackticks cs) = ink cs := by
  induction cs with
  | nil => rfl
  | cons c cs ih =>
      rw [doubleBackticks, List.flatMap_cons, ink_append, ink_cons c cs]
      refine congr_arg₂ (· + ·) ?_ ih
      split
      · rename_i hc
        rw [hc]
        rfl
      · rfl

theorem ink_quoteName (cs : List Char) : ink (quoteName cs) = ink cs := by
  have hquote : ink [backtick] = 0 := rfl
  rw [quoteName]
  split
  · rfl
  · rw [ink_cons, ink_append, ink_doubleBackticks, hquote, Nat.zero_add, Nat.add_zero]

/-- The letters of a separator are ink, and its blanks are not. -/
theorem IsSeparator.ink_eq {sep : List Char} (h : IsSeparator sep) : ink sep = 2 := by
  obtain ⟨-, -, blankFront, blankBack, ha, hs⟩ := h
  rename_i front back a s
  have hlowerA : ink [a] = 1 := by
    simp only [isLetterA, Bool.or_eq_true, decide_eq_true_eq] at ha
    rcases ha with rfl | rfl <;> decide
  have hlowerS : ink [s] = 1 := by
    simp only [isLetterS, Bool.or_eq_true, decide_eq_true_eq] at hs
    rcases hs with (rfl | rfl) | rfl <;> decide
  rw [ink_append, ink_cons a, ink_cons s, ink_of_isBlank blankFront, ink_of_isBlank blankBack,
    hlowerA, hlowerS]

/-- A text that is cut in two has two letters more than its halves. -/
theorem ink_of_splitChars? {cs name aliasName : List Char}
    (h : splitChars? cs = some (name, aliasName)) : ink cs = ink name + 2 + ink aliasName := by
  obtain ⟨before, after, ⟨⟨sep, hsep, rfl⟩, -⟩, rfl, rfl⟩ := splitChars?_eq_some_iff.mp h
  rw [ink_append, ink_append, hsep.ink_eq, ink_trimChars, ink_trimChars, Nat.add_assoc]

theorem ink_quotePart (cs : List Char) : ink (quotePart cs) = ink cs := by
  have has : ink " AS ".toList = 2 := by decide
  rw [quotePart]
  split
  · rename_i name aliasName hsplit
    rw [ink_append, ink_append, ink_quoteName, ink_quoteName, has, ink_of_splitChars? hsplit]
  · exact ink_quoteName cs

/-- A quoted name has the ink of its raw text. -/
theorem ink_quoted (id : Identifier) : ink id.quoted.toList = ink id.raw.toList := by
  rw [quoted, String.toList_ofList, quoteChars]
  split
  · exact ink_quotePart _
  · rw [Text.ink_intercalate_eq ['.'] (g := fun part => part) _ fun part _ => by
        rw [ink_quotePart, ink_trimChars], List.map_id', pieces, List.intercalate_splitOn]

/-! ### Names without alias -/

/-- The name without the alias that it carries. -/
def withoutAlias (id : Identifier) : Identifier :=
  match id.splitAlias? with
  | some (name, _) => name
  | none => id

/-- Whether the name carries an alias. -/
def carriesAlias (id : Identifier) : Bool := id.splitAlias?.isSome

theorem withoutAlias_of_not_carriesAlias {id : Identifier} (h : id.carriesAlias = false) :
    id.withoutAlias = id := by
  have hnone : id.splitAlias? = none := by simpa [carriesAlias] using h
  rw [withoutAlias, hnone]

/-- What stands in front of an alias carries none. -/
theorem carriesAlias_withoutAlias (id : Identifier) : id.withoutAlias.carriesAlias = false := by
  cases hsplit : id.splitAlias? with
  | none =>
      have hcarries : id.carriesAlias = false := by rw [carriesAlias, hsplit]; rfl
      rw [withoutAlias_of_not_carriesAlias hcarries]
      exact hcarries
  | some halves =>
      obtain ⟨⟨cs, ds⟩, hchars, rfl⟩ := Option.map_eq_some_iff.mp hsplit
      obtain ⟨before, after, hcut, rfl, -⟩ := splitChars?_eq_some_iff.mp hchars
      have hnone : cutAlias? (Text.trimChars before) = none :=
        (cutAlias?_eq_none_iff _).mpr hcut.not_hasSeparator
      rw [withoutAlias, hsplit, carriesAlias, splitAlias?, splitChars?]
      simp [hnone]

/-- An alias leaves ink behind. -/
theorem ink_withoutAlias_lt {id : Identifier} (h : id.carriesAlias) :
    ink id.withoutAlias.quoted.toList < ink id.quoted.toList := by
  obtain ⟨⟨name, aliasName⟩, hsplit⟩ := Option.isSome_iff_exists.mp h
  obtain ⟨⟨cs, ds⟩, hchars, hmap⟩ := Option.map_eq_some_iff.mp hsplit
  obtain ⟨rfl, rfl⟩ := Prod.mk.inj hmap
  have hink := ink_of_splitChars? hchars
  rw [withoutAlias, hsplit, ink_quoted, ink_quoted, String.toList_ofList]
  dsimp only
  omega

end Identifier

end FluentSql
