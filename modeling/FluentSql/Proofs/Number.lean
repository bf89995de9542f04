import FluentSql.Literal.Printer

/-! # Characters of written numbers

A finite number in SQL text is made of digits, a point and a minus sign (`isNumeric`), whatever its
kind.  The floating point values that are not finite are written by one of three words
(`Binary64.sqlText_cases`). -/

namespace FluentSql

/-- Whether `c` can stand in a finite number. -/
def isNumeric (c : Char) : Bool := c.isDigit || c = '.' || c = '-'

theorem toNat_of_isNumeric {c : Char} (h : isNumeric c) : 0x2C < c.toNat ∧ c.toNat < 0x3A := by
  simp only [isNumeric, Char.isDigit, Bool.or_eq_true, Bool.and_eq_true, decide_eq_true_eq,
    ge_iff_le, UInt32.le_iff_toNat_le] at h
  rcases h with (⟨hle, hge⟩ | rfl) | rfl
  · exact ⟨Nat.lt_of_lt_of_le (by decide) hle, Nat.lt_of_le_of_lt hge (by decide)⟩
  · decide
  · decide

theorem toUpper_of_isNumeric {c : Char} (h : isNumeric c) : c.toUpper = c := by
  have hn := toNat_of_isNumeric h
  refine dif_neg fun hlower => ?_
  have hle : 97 ≤ c.toNat := hlower.1
  omega

theorem map_toUpper_of_isNumeric {w : List Char} (hw : ∀ c ∈ w, isNumeric c) :
    w.map Char.toUpper = w := by
  rw [List.map_congr_left fun c hc => toUpper_of_isNumeric (hw c hc), List.map_id']

theorem ne_of_isNumeric {c d : Char} (hc : isNumeric c) (hd : ¬ isNumeric d) : c ≠ d := by
  rintro rfl
  exact hd hc

theorem isNumeric_of_mem_toDigits {n : Nat} {c : Char} (h : c ∈ Nat.toDigits 10 n) :
    isNumeric c := by
  simp [isNumeric, Nat.isDigit_of_mem_toDigits (by decide) (by decide) h]

theorem isNumeric_of_mem_replicate {n : Nat} {c : Char} (h : c ∈ List.replicate n '0') :
    isNumeric c := by
  rw [(List.mem_replicate.mp h).2]; decide

theorem isNumeric_of_mem_natText {n : Nat} {c : Char} (h : c ∈ (toString n).toList) :
    isNumeric c := by
  rw [Nat.toString_eq_ofList_toDigits, String.toList_ofList] at h
  exact isNumeric_of_mem_toDigits h

theorem toString_negSucc (n : Nat) : toString (Int.negSucc n) = "-" ++ toString (n + 1) := rfl

theorem isNumeric_of_mem_intText {n : Int} {c : Char} (h : c ∈ (toString n).toList) :
    isNumeric c := by
  cases n with
  | ofNat n => exact isNumeric_of_mem_natText h
  | negSucc n =>
      rw [toString_negSucc, String.toList_append] at h
      rcases List.mem_append.mp h with h | h
      · rw [show c = '-' by simpa using h]; decide
      · exact isNumeric_of_mem_natText h

/-! ### Floating point numbers -/

theorem Layout.isNumeric_of_mem_positionalText {d : Decimal} {c : Char}
    (h : c ∈ (positionalText "" d).toList) : isNumeric c := by
  have padded : ∀ {n m : Nat}, c ∈ List.replicate n '0' ++ Nat.toDigits 10 m → isNumeric c := by
    intro n m hc
    rcases List.mem_append.mp hc with hc | hc
    · exact isNumeric_of_mem_replicate hc
    · exact isNumeric_of_mem_toDigits hc
  unfold positionalText at h
  split at h
  · simp only [String.toList_append, String.toList_ofList, List.mem_append] at h
    rcases h with (h | h) | h
    · exact isNumeric_of_mem_toDigits h
    · exact isNumeric_of_mem_replicate h
    · simp at h
  · simp only [String.toList_append, String.toList_ofList, List.mem_append] at h
    rcases h with (h | h) | h
    · exact padded (List.mem_of_mem_take h)
    · rw [show c = '.' by simpa using h]; decide
    · exact padded (List.mem_of_mem_drop h)

theorem Layout.decimalText_sql (d : Decimal) : sql.decimalText d = positionalText "" d := rfl

theorem Layout.isNumeric_of_mem_sqlText {negative : Bool} {significand : Nat} {exponent : Int}
    {c : Char} (h : c ∈ (sql.finiteText negative significand exponent).toList) : isNumeric c := by
  have signed : ∀ {m : String}, (∀ e ∈ m.toList, isNumeric e) →
      ∀ e ∈ (if negative then "-" ++ m else m).toList, isNumeric e := by
    intro m hm e he
    split at he
    · rcases List.mem_append.mp (String.toList_append ▸ he) with he | he
      · rw [show e = '-' by simpa using he]; decide
      · exact hm e he
    · exact hm e he
  simp only [finiteText, decimalText_sql] at h
  refine signed (fun e he => ?_) c h
  split at he
  · rw [show e = '0' by simpa [sql] using he]; decide
  · exact isNumeric_of_mem_positionalText he

theorem Binary64.sqlText_cases (x : Binary64) :
    x.sqlText = "nan" ∨ x.sqlText = "inf" ∨ x.sqlText = "-inf" ∨
      ∀ c ∈ x.sqlText.toList, isNumeric c := by
  unfold sqlText positionalOr
  cases x.view with
  | nan => exact .inl rfl
  | infinite negative => cases negative <;> simp
  | finite negative significand exponent =>
      exact .inr (.inr (.inr fun c hc => Layout.isNumeric_of_mem_sqlText hc))

end FluentSql
