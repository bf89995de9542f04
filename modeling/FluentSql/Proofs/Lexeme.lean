import FluentSql.Proofs.Token

/-! # Words and symbols

Behind the tokens of a text stand its lexemes: literals and names as before, the words, which are
as long as they can be, and the other characters but the blanks.  Words are in upper case, whatever
case they are written in.  The lexemes of two texts in sequence are those of both when no word goes
over the seam (`Lexeme.ofTokens_append`), as with a separator between them
(`Lexeme.ofTokens_glue`), and trimming a text does not change its lexemes
(`Lexeme.ofTokens_trim`). -/

namespace FluentSql

/-- A word, a quoted token or a symbol of SQL text. -/
inductive Lexeme where
  | string (content : String)
  | name (content : String)
  | word (w : String)
  | symbol (c : Char)
deriving DecidableEq, Repr

namespace Token

/-- The character of a token that is part of a word. -/
def wordChar? : Token → Option Char
  | char c => if c.isAlphanum || c = '_' then some c else none
  | _ => none

/-- Whether tokens do not begin within a word. -/
def startsApart (ts : List Token) : Bool := ts.head?.all fun t => (wordChar? t).isNone

/-- Whether tokens do not end within a word. -/
def endsApart (ts : List Token) : Bool := ts.getLast?.all fun t => (wordChar? t).isNone

/-- Whether a text begins with a character that is not part of a word. -/
def leads (s : String) : Bool := s ≠ "" && startsApart (ofText s)

theorem ne_empty_of_leads {k : String} (h : leads k) : k ≠ "" := by
  rintro rfl
  exact absurd h (by decide)

theorem startsApart_append {k : String} (h : leads k) (ts : List Token) :
    startsApart (ofText k ++ ts) := by
  simp only [leads, Bool.and_eq_true, decide_eq_true_eq] at h
  obtain ⟨hne, hstart⟩ := h
  have htokens : ofText k ≠ [] := by simpa [ofText] using hne
  obtain ⟨t, us, hus⟩ := List.exists_cons_of_ne_nil htokens
  rw [hus] at hstart ⊢
  exact hstart

end Token

namespace Lexeme

open Token (wordChar?)

/-- The word with the characters `w`; no characters are no word. -/
def ofWord (w : List Char) : List Lexeme :=
  if w = [] then [] else [word (String.ofList (w.map Char.toUpper))]

/-- The lexemes of a token that is not part of a word. -/
def ofSeparator : Token → List Lexeme
  | .string s => [string s]
  | .name n => [name n]
  | .char c => if Text.isBlank c then [] else [symbol c]

/-- The lexemes of tokens, behind the characters `w` of a word. -/
def ofTokens (w : List Char) : List Token → List Lexeme
  | [] => ofWord w
  | t :: ts =>
      match wordChar? t with
      | some c => ofTokens (w ++ [c]) ts
      | none => ofWord w ++ (ofSeparator t ++ ofTokens [] ts)

/-- The lexemes of a text. -/
def read? (s : String) : Option (List Lexeme) := (Token.read? s).map (ofTokens [])

@[simp] theorem ofWord_nil : ofWord [] = [] := rfl

@[simp] theorem ofTokens_nil (w : List Char) : ofTokens w [] = ofWord w := rfl

theorem ofTokens_cons_separator {t : Token} (ht : wordChar? t = none) (w : List Char)
    (ts : List Token) :
    ofTokens w (t :: ts) = ofWord w ++ (ofSeparator t ++ ofTokens [] ts) := by
  rw [ofTokens, ht]

theorem ofTokens_cons_word {t : Token} {c : Char} (ht : wordChar? t = some c) (w : List Char)
    (ts : List Token) : ofTokens w (t :: ts) = ofTokens (w ++ [c]) ts := by
  rw [ofTokens, ht]

/-- The lexemes of tokens in sequence, where the second ones begin outside a word. -/
theorem ofTokens_append {us : List Token} (hus : Token.startsApart us) (ts : List Token) :
    ∀ w : List Char, ofTokens w (ts ++ us) = ofTokens w ts ++ ofTokens [] us := by
  induction ts with
  | nil =>
      intro w
      cases us with
      | nil => simp
      | cons u us =>
          have hu : wordChar? u = none := by simpa [Token.startsApart] using hus
          rw [List.nil_append, ofTokens_cons_separator hu, ofTokens_cons_separator hu]
          rfl
  | cons t ts ih =>
      intro w
      cases ht : wordChar? t with
      | some c => rw [List.cons_append, ofTokens_cons_word ht, ofTokens_cons_word ht, ih]
      | none =>
          rw [List.cons_append, ofTokens_cons_separator ht, ofTokens_cons_separator ht, ih]
          simp only [List.append_assoc]

/-- The lexemes of tokens in sequence, where the first ones end outside a word. -/
theorem ofTokens_append_of_endsApart {ts : List Token} (hts : Token.endsApart ts)
    (us : List Token) : ofTokens [] (ts ++ us) = ofTokens [] ts ++ ofTokens [] us := by
  induction ts using List.reverseRecOn with
  | nil => rfl
  | append_singleton ts t _ =>
      have ht : wordChar? t = none := by simpa [Token.endsApart] using hts
      have hhead (vs : List Token) : Token.startsApart (t :: vs) := by
        simp [Token.startsApart, ht]
      rw [List.append_assoc, List.singleton_append, ofTokens_append (hhead us),
        ofTokens_append (hhead []), ofTokens_cons_separator ht, ofTokens_cons_separator ht]
      simp

/-- Tokens with a text between them. -/
theorem ofTokens_glue {k : String} (hlead : Token.leads k) (hend : Token.endsApart (Token.ofText k))
    (ts us : List Token) :
    ofTokens [] (ts ++ (Token.ofText k ++ us)) =
      ofTokens [] ts ++ (ofTokens [] (Token.ofText k) ++ ofTokens [] us) := by
  rw [ofTokens_append (Token.startsApart_append hlead us), ofTokens_append_of_endsApart hend]

/-- Tokens in front of a text. -/
theorem ofTokens_append_text {k : String} (hlead : Token.leads k) (ts : List Token) :
    ofTokens [] (ts ++ Token.ofText k) = ofTokens [] ts ++ ofTokens [] (Token.ofText k) := by
  have hstart := Token.startsApart_append hlead []
  rw [List.append_nil] at hstart
  exact ofTokens_append hstart ts []

/-! ### Texts put together -/

/-- The lexemes of a text of plain characters. -/
def ofText (s : String) : List Lexeme := ofTokens [] (Token.ofText s)

theorem read?_text {s : String} (hs : s.toList.all Token.isPlain) : read? s = some (ofText s) := by
  rw [read?, Token.read?_text hs]
  rfl

/-- A text behind a fixed one. -/
theorem read?_behind {s : String} {ls : List Lexeme} (k : String) (hk : k.toList.all Token.isPlain)
    (hend : Token.endsApart (Token.ofText k)) (hs : read? s = some ls) :
    read? (k ++ s) = some (ofText k ++ ls) := by
  obtain ⟨ts, hts, rfl⟩ := Option.map_eq_some_iff.mp hs
  rw [read?, Token.read?_text_append hk, hts, Option.map_some, Option.map_some,
    ofTokens_append_of_endsApart hend]
  rfl

/-- A text in front of a fixed one. -/
theorem read?_before {s : String} {ls : List Lexeme} (k : String) (hk : k.toList.all Token.isPlain)
    (hlead : Token.leads k) (hs : read? s = some ls) :
    read? (s ++ k) = some (ls ++ ofText k) := by
  obtain ⟨ts, hts, rfl⟩ := Option.map_eq_some_iff.mp hs
  rw [read?, Token.read?_append_text hk (Token.ne_empty_of_leads hlead) hts, Option.map_some,
    ofTokens_append_text hlead]
  rfl

/-- Texts with a fixed one between them. -/
theorem read?_glue {s t : String} {ls ms : List Lexeme} (k : String)
    (hk : k.toList.all Token.isPlain) (hlead : Token.leads k)
    (hend : Token.endsApart (Token.ofText k)) (hs : read? s = some ls) (ht : read? t = some ms) :
    read? (s ++ k ++ t) = some (ls ++ (ofText k ++ ms)) := by
  obtain ⟨ts, hts, rfl⟩ := Option.map_eq_some_iff.mp hs
  obtain ⟨us, hus, rfl⟩ := Option.map_eq_some_iff.mp ht
  rw [read?, Token.read?_glue hk (Token.ne_empty_of_leads hlead) hts hus, Option.map_some,
    ofTokens_glue hlead hend]
  rfl

/-- A list of texts with a fixed one between each two of them. -/
theorem read?_intercalate (k : String) (hk : k.toList.all Token.isPlain) (hlead : Token.leads k)
    (hend : Token.endsApart (Token.ofText k)) {ss : List String} {lss : List (List Lexeme)}
    (h : List.Forall₂ (fun s ls => read? s = some ls) ss lss) :
    read? (k.intercalate ss) = some ((ofText k).intercalate lss) := by
  induction h with
  | nil => rfl
  | @cons s ls ss lss hs hss ih =>
      cases hss with
      | nil =>
          rw [String.intercalate_singleton, List.intercalate_singleton]
          exact hs
      | cons _ _ =>
          rw [String.intercalate_cons_cons, List.intercalate_cons_cons,
            read?_glue k hk hlead hend hs ih, List.append_assoc]

/-! ### Trimming -/

theorem isAlphanum_cases {c : Char} (h : c.isAlphanum) :
    (0x41 ≤ c.toNat ∧ c.toNat ≤ 0x5A) ∨ (0x61 ≤ c.toNat ∧ c.toNat ≤ 0x7A) ∨
      (0x30 ≤ c.toNat ∧ c.toNat ≤ 0x39) := by
  obtain hletter | hdigit := Bool.or_eq_true_iff.mp h
  · obtain hupper | hlower := Bool.or_eq_true_iff.mp hletter
    · have hbounds : 'A'.val ≤ c.val ∧ c.val ≤ 'Z'.val := of_decide_eq_true hupper
      exact .inl ⟨UInt32.le_iff_toNat_le.mp hbounds.1, UInt32.le_iff_toNat_le.mp hbounds.2⟩
    · obtain ⟨hlow, hhigh⟩ := Bool.and_eq_true_iff.mp hlower
      exact .inr (.inl ⟨UInt32.le_iff_toNat_le.mp (of_decide_eq_true hlow),
        UInt32.le_iff_toNat_le.mp (of_decide_eq_true hhigh)⟩)
  · exact .inr (.inr (Char.isDigit_iff_toNat.mp hdigit))

theorem not_isAlphanum_of_isBlank {c : Char} (h : Text.isBlank c) :
    c.isAlphanum = false ∧ c ≠ '_' := by
  have hn : c.toNat < 0x30 ∨ 0x7A < c.toNat := by
    simp [Text.isBlank, Text.inRanges, Text.blankRanges] at h
    omega
  constructor
  · rw [Bool.eq_false_iff]
    intro hc
    have hranges := isAlphanum_cases hc
    omega
  · rintro rfl
    revert hn
    decide

theorem wordChar?_of_isBlank {t : Token} (h : t.isBlank) : wordChar? t = none := by
  cases t with
  | char c =>
      obtain ⟨halnum, hunder⟩ := not_isAlphanum_of_isBlank h
      simp [wordChar?, halnum, hunder]
  | _ => rfl

theorem ofSeparator_of_isBlank {t : Token} (h : t.isBlank) : ofSeparator t = [] := by
  cases t with
  | char c => exact if_pos h
  | _ => cases h

theorem ofTokens_dropWhile_isBlank (ts : List Token) :
    ofTokens [] (ts.dropWhile Token.isBlank) = ofTokens [] ts := by
  induction ts with
  | nil => rfl
  | cons t ts ih =>
      by_cases ht : t.isBlank
      · rw [List.dropWhile_cons_of_pos ht, ih, ofTokens_cons_separator (wordChar?_of_isBlank ht),
          ofSeparator_of_isBlank ht]
        rfl
      · rw [List.dropWhile_cons_of_neg ht]

theorem ofTokens_rdropWhile_isBlank (w : List Char) (ts : List Token) :
    ofTokens w (ts.rdropWhile Token.isBlank) = ofTokens w ts := by
  induction ts using List.reverseRecOn with
  | nil => rfl
  | append_singleton ts t ih =>
      by_cases ht : t.isBlank
      · have hword := wordChar?_of_isBlank ht
        have hhead : Token.startsApart [t] := by simp [Token.startsApart, hword]
        rw [List.rdropWhile_concat_pos _ _ _ ht, ih, ofTokens_append hhead,
          ofTokens_cons_separator hword, ofSeparator_of_isBlank ht]
        simp
      · rw [List.rdropWhile_concat_neg _ _ _ ht]

/-- Blanks at the ends of a text are not seen in its lexemes. -/
theorem ofTokens_trim (ts : List Token) : ofTokens [] (Token.trim ts) = ofTokens [] ts := by
  rw [Token.trim, ofTokens_rdropWhile_isBlank, ofTokens_dropWhile_isBlank]

end Lexeme

end FluentSql
