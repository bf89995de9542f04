import FluentSql.Proofs.Outline

/-! # Texts that differ in their literals

Two texts are alike under a function `f` on strings when the tokens of the second are those of the
first, but with `f` applied to what the literals stand for (`Alike`).  The relation also carries
the outline that the first text has, which does not depend on literals.

Whatever is put together from alike texts by separators, keywords and brackets is alike again, and
so are the texts after trimming (`Alike.trim`).  Whether a text is empty, or is `*`, is the same for
alike texts (`Alike.eq_empty_iff`, `Alike.eq_star_iff`), so no decision on the text of a clause
depends on literals. -/

namespace FluentSql

namespace Token

/-- The token with `f` applied to what a literal stands for. -/
def mapString (f : String → String) : Token → Token
  | string s => string (f s)
  | t => t

theorem map_mapString_ofText (f : String → String) (s : String) :
    (ofText s).map (mapString f) = ofText s := by
  simp [ofText, mapString]

theorem isBlank_mapString (f : String → String) (t : Token) :
    (mapString f t).isBlank = t.isBlank := by
  cases t <;> rfl

theorem dropWhile_map_mapString (f : String → String) (ts : List Token) :
    (ts.map (mapString f)).dropWhile isBlank = (ts.dropWhile isBlank).map (mapString f) := by
  rw [List.dropWhile_map]
  congr 2
  funext t
  exact isBlank_mapString f t

theorem trim_map_mapString (f : String → String) (ts : List Token) :
    trim (ts.map (mapString f)) = (trim ts).map (mapString f) := by
  rw [trim, trim, dropWhile_map_mapString, List.rdropWhile, List.rdropWhile, ← List.map_reverse,
    dropWhile_map_mapString, List.map_reverse]

end Token

open Token (ofText endsApart leads)

/-- The text `s` is read as `ts`, and `s'` as the same tokens but for `f` on literals. -/
def ReadAlike (f : String → String) (ts : List Token) (s s' : String) : Prop :=
  Token.read? s = some ts ∧ Token.read? s' = some (ts.map (Token.mapString f))

/-- The texts `s` and `s'` have the same tokens but for `f` on literals, and the outline of the
first is `ws`. -/
def Alike (f : String → String) (ws : List String) (s s' : String) : Prop :=
  ∃ ts, ReadAlike f ts s s' ∧ Lexeme.scan [] (Lexeme.ofTokens [] ts) = some ([], ws)

/-- A text of plain characters: behind it the brackets `q` are to close if the brackets `p` were to
close before it, and `ws` is seen in it. -/
def Fixed (p q : List Char) (ws : List String) (s : String) : Prop :=
  s.toList.all Token.isPlain ∧ Lexeme.scan p (Lexeme.ofTokens [] (ofText s)) = some (q, ws)

instance (p q : List Char) (ws : List String) (s : String) : Decidable (Fixed p q ws s) :=
  inferInstanceAs (Decidable (_ ∧ _))

variable {f : String → String}

/-! ### Tokens -/

namespace ReadAlike

theorem text {s : String} (hs : s.toList.all Token.isPlain) : ReadAlike f (ofText s) s s := by
  refine ⟨Token.read?_text hs, ?_⟩
  rw [Token.map_mapString_ofText]
  exact Token.read?_text hs

theorem text_append {k s s' : String} {ts : List Token} (hk : k.toList.all Token.isPlain)
    (h : ReadAlike f ts s s') : ReadAlike f (ofText k ++ ts) (k ++ s) (k ++ s') := by
  refine ⟨?_, ?_⟩
  · rw [Token.read?_text_append hk, h.1]
    rfl
  · rw [Token.read?_text_append hk, h.2, List.map_append, Token.map_mapString_ofText]
    rfl

theorem glue {k s s' t t' : String} {ts us : List Token} (hk : k.toList.all Token.isPlain)
    (hne : k ≠ "") (hs : ReadAlike f ts s s') (ht : ReadAlike f us t t') :
    ReadAlike f (ts ++ (ofText k ++ us)) (s ++ k ++ t) (s' ++ k ++ t') := by
  refine ⟨Token.read?_glue hk hne hs.1 ht.1, ?_⟩
  rw [Token.read?_glue hk hne hs.2 ht.2, List.map_append, List.map_append,
    Token.map_mapString_ofText]

theorem append_text {k s s' : String} {ts : List Token} (hk : k.toList.all Token.isPlain)
    (hne : k ≠ "") (hs : ReadAlike f ts s s') :
    ReadAlike f (ts ++ ofText k) (s ++ k) (s' ++ k) := by
  refine ⟨Token.read?_append_text hk hne hs.1, ?_⟩
  rw [Token.read?_append_text hk hne hs.2, List.map_append, Token.map_mapString_ofText]

end ReadAlike

namespace Alike

/-! ### Fixed texts in front, between and around -/

theorem fixed {ws : List String} {s : String} (hs : Fixed [] [] ws s) : Alike f ws s s :=
  ⟨ofText s, ReadAlike.text hs.1, hs.2⟩

theorem empty : Alike f [] "" "" := fixed (by decide)

/-- Texts behind a keyword or another fixed text. -/
theorem behind {us : List String} {s s' : String} (k : String) (ws : List String)
    (hk : Fixed [] [] ws k) (hend : endsApart (ofText k)) (h : Alike f us s s') :
    Alike f (ws ++ us) (k ++ s) (k ++ s') := by
  obtain ⟨ts, hts, hscan⟩ := h
  refine ⟨ofText k ++ ts, ReadAlike.text_append hk.1 hts, ?_⟩
  rw [Lexeme.ofTokens_append_of_endsApart hend]
  exact Lexeme.scan_append_eq_some hk.2 hscan

/-- Texts with a fixed text between them. -/
theorem glue {ws vs : List String} {s s' t t' : String} (k : String) (us : List String)
    (hk : Fixed [] [] us k) (hlead : leads k) (hend : endsApart (ofText k))
    (hs : Alike f ws s s') (ht : Alike f vs t t') :
    Alike f (ws ++ (us ++ vs)) (s ++ k ++ t) (s' ++ k ++ t') := by
  obtain ⟨ts, hts, hscan⟩ := hs
  obtain ⟨rs, hrs, hscan'⟩ := ht
  refine ⟨ts ++ (ofText k ++ rs), ReadAlike.glue hk.1 (Token.ne_empty_of_leads hlead) hts hrs, ?_⟩
  rw [Lexeme.ofTokens_glue hlead hend]
  exact Lexeme.scan_append_eq_some hscan (Lexeme.scan_append_eq_some hk.2 hscan')

/-- Texts with a separator between them, where nothing is seen. -/
theorem join {s s' t t' : String} (k : String) (hk : Fixed [] [] [] k) (hlead : leads k)
    (hend : endsApart (ofText k)) (hs : Alike f [] s s') (ht : Alike f [] t t') :
    Alike f [] (s ++ k ++ t) (s' ++ k ++ t') :=
  glue k [] hk hlead hend hs ht

/-- Texts in front of a fixed text. -/
theorem before {ws : List String} {s s' : String} (k : String) (us : List String)
    (hk : Fixed [] [] us k) (hlead : leads k) (hs : Alike f ws s s') :
    Alike f (ws ++ us) (s ++ k) (s' ++ k) := by
  obtain ⟨ts, hts, hscan⟩ := hs
  refine ⟨ts ++ ofText k, ReadAlike.append_text hk.1 (Token.ne_empty_of_leads hlead) hts, ?_⟩
  rw [Lexeme.ofTokens_append_text hlead]
  exact Lexeme.scan_append_eq_some hscan hk.2

/-- Texts within brackets: nothing is seen of them. -/
theorem enclosed {ws : List String} {s s' : String} (k l : String) (c : Char)
    (hk : Fixed [] [c] [] k) (hl : Fixed [c] [] [] l) (hend : endsApart (ofText k))
    (hlead : leads l) (h : Alike f ws s s') :
    Alike f [] (k ++ s ++ l) (k ++ s' ++ l) := by
  rw [String.append_assoc, String.append_assoc]
  obtain ⟨ts, hts, hscan⟩ := h
  have hbody := ReadAlike.append_text hl.1 (Token.ne_empty_of_leads hlead) hts
  refine ⟨ofText k ++ (ts ++ ofText l), ReadAlike.text_append hk.1 hbody, ?_⟩
  rw [Lexeme.ofTokens_append_of_endsApart hend, Lexeme.ofTokens_append_text hlead]
  have hinner := Lexeme.scan_frame (List.cons_ne_nil c []) hscan
  exact Lexeme.scan_append_eq_some hk.2 (Lexeme.scan_append_eq_some hinner hl.2)

/-! ### Trimming and emptiness -/

theorem trim {ws : List String} {s s' : String} (h : Alike f ws s s') :
    Alike f ws (Text.trim s) (Text.trim s') := by
  obtain ⟨ts, ⟨hs, hs'⟩, hscan⟩ := h
  refine ⟨Token.trim ts, ⟨Token.read?_trim hs, ?_⟩, ?_⟩
  · rw [Token.read?_trim hs', Token.trim_map_mapString]
  · rw [Lexeme.ofTokens_trim]
    exact hscan

theorem eq_empty_iff {ws : List String} {s s' : String} (h : Alike f ws s s') :
    s = "" ↔ s' = "" := by
  obtain ⟨ts, ⟨hs, hs'⟩, -⟩ := h
  constructor
  · rintro rfl
    obtain rfl : [] = ts := Option.some.inj hs
    exact Token.read?_eq_nil hs'
  · rintro rfl
    have hnil : [] = ts.map (Token.mapString f) := Option.some.inj hs'
    rw [List.map_eq_nil_iff.mp hnil.symm] at hs
    exact Token.read?_eq_nil hs

/-- Nothing is seen in an empty text. -/
theorem eq_nil_of_empty {ws : List String} {s' : String} (h : Alike f ws "" s') : ws = [] := by
  obtain ⟨ts, ⟨hs, -⟩, hscan⟩ := h
  obtain rfl : [] = ts := Option.some.inj hs
  exact (Prod.mk.inj (Option.some.inj hscan)).2.symm

theorem eq_star_iff {ws : List String} {s s' : String} (h : Alike f ws s s') :
    s = "*" ↔ s' = "*" := by
  obtain ⟨ts, ⟨hs, hs'⟩, -⟩ := h
  constructor
  · rintro rfl
    obtain rfl : [Token.char '*'] = ts := Option.some.inj hs
    exact String.toList_injective (Token.read?_eq_char hs')
  · rintro rfl
    have hstar : [Token.char '*'] = ts.map (Token.mapString f) := Option.some.inj hs'
    obtain ⟨t, rfl, ht⟩ := List.map_eq_singleton_iff.mp hstar.symm
    have hchar : t = Token.char '*' := by
      cases t with
      | char c => exact ht
      | _ => cases ht
    rw [hchar] at hs
    exact String.toList_injective (Token.read?_eq_char hs)

/-- A number has no head words and no brackets. -/
theorem number {s : String} (hs : ∀ c ∈ s.toList, isNumeric c) : Alike f [] s s :=
  fixed ⟨List.all_eq_true.mpr fun c hc => Token.isPlain_of_isNumeric (hs c hc),
    Lexeme.scan_of_isNumeric hs []⟩

end Alike

end FluentSql
