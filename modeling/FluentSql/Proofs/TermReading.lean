import FluentSql.Literal.Printer
import FluentSql.Proofs.Formula
import FluentSql.Proofs.Name
import Mathlib.Data.List.Forall2

/-! # Reading values back

The text of a plain value is read as the term that it stands for (`Value.IsPlain.readsBack`): null
and truth values, integers, texts, names without alias, and arrays of plain values.  A text is read
as itself whatever characters are in it, and a name by its parts. -/

namespace FluentSql

/-- What a part of a name stands for: a lone `*` is not quoted. -/
def NamePart.ofChars (cs : List Char) : NamePart :=
  if cs = ['*'] then star else name (String.ofList cs)

namespace Value

/-- The values that have a term: neither floating point numbers nor raw SQL, and of the names only
those that are not `*` and carry no alias. -/
inductive IsPlain : Value → Prop
  | null : IsPlain .null
  | bool (b : Bool) : IsPlain (.bool b)
  | int (n : Int64) : IsPlain (.int n)
  | uint (n : UInt64) : IsPlain (.uint n)
  | string (s : String) : IsPlain (.string s)
  | identifier {id : Identifier} (hstar : id.raw ≠ "*") (halias : id.splitAlias? = none) :
      IsPlain (.identifier id)
  | array {items : List Value} (hitems : ∀ v ∈ items, IsPlain v) : IsPlain (.array items)

mutual

/-- The term that a value stands for. -/
def term? : Value → Option Term
  | .null => some .null
  | .bool b => some (.bool b)
  | .int n => some (.int n.toInt)
  | .uint n => some (.int n.toNat)
  | .string s => some (.string s)
  | .identifier id => some (.name (id.parts.map NamePart.ofChars))
  | .array items => (termList? items).map .array
  | .float _ => none
  | .raw _ => none

def termList? : List Value → Option (List Term)
  | [] => some []
  | v :: vs => v.term?.bind fun t => (termList? vs).map fun ts => t :: ts

end

end Value

/-! ### Lexemes of terms -/

/-- The lexemes `ls` are read as the term `t`, and do not begin like anything else. -/
def Term.Written (ls : List Lexeme) (t : Term) : Prop :=
  (∃ l rest, ls = l :: rest ∧
    l ∉ [Lexeme.word "NOT", Lexeme.symbol '(', Lexeme.symbol ']', Lexeme.symbol '=']) ∧
  ∀ n, ls.length ≤ n → (Term.read n).Takes [.symbol '.'] ls t

/-- Lexemes whose first one tells which reader takes them. -/
theorem Term.written_of_takes {l : Lexeme} {ls : List Lexeme} {t : Term}
    (hl : l ∉ [Lexeme.word "NOT", Lexeme.symbol '(', Lexeme.symbol ']', Lexeme.symbol '='])
    (h : ∀ n, ls.length ≤ n → (Term.read (n + 1)).Takes [.symbol '.'] (l :: ls) t) :
    Term.Written (l :: ls) t := by
  refine ⟨⟨l, ls, rfl, hl⟩, ?_⟩
  intro n hn
  obtain ⟨n, rfl⟩ := Nat.exists_eq_add_of_le' (Nat.le_trans (Nat.le_add_left 1 _) hn)
  exact h n (Nat.le_of_succ_le_succ hn)

/-- One lexeme that is a term. -/
theorem Term.written_singleton {l : Lexeme} {t : Term}
    (hl : l ∉ [Lexeme.word "NOT", Lexeme.symbol '(', Lexeme.symbol ']', Lexeme.symbol '='])
    (hread : ∀ n rest, Term.read (n + 1) (l :: rest) = some (t, rest)) : Term.Written [l] t :=
  written_of_takes hl fun n _ rest _ => hread n rest

/-! ### Numbers -/

theorem ofTokens_of_wordChars {cs : List Char} : ∀ {w : List Char},
    (∀ c ∈ cs, Token.wordChar? (.char c) = some c) →
      Lexeme.ofTokens w (cs.map Token.char) = Lexeme.ofWord (w ++ cs) := by
  induction cs with
  | nil => intro w _; simp
  | cons c cs ih =>
      intro w hcs
      rw [List.map_cons, Lexeme.ofTokens_cons_word (hcs c List.mem_cons_self),
        ih fun d hd => hcs d (List.mem_cons_of_mem c hd), List.append_assoc, List.singleton_append]

theorem wordChar?_of_isDigit {c : Char} (h : c.isDigit) : Token.wordChar? (.char c) = some c := by
  simp [Token.wordChar?, Char.isAlphanum, h]

theorem isDigit_of_mem_natText {n : Nat} {c : Char} (h : c ∈ (toString n).toList) : c.isDigit := by
  rw [Nat.toString_eq_ofList_toDigits, String.toList_ofList] at h
  exact Nat.isDigit_of_mem_toDigits (by decide) (by decide) h

theorem natText_ne_empty (n : Nat) : toString n ≠ "" := by
  rw [Nat.toString_eq_ofList_toDigits, ne_eq, ← String.toList_eq_nil_iff, String.toList_ofList]
  exact Nat.toDigits_ne_nil

theorem read?_natText (n : Nat) : Lexeme.read? (toString n) = some [.word (toString n)] := by
  have hplain : (toString n).toList.all Token.isPlain := List.all_eq_true.mpr fun c hc =>
    Token.isPlain_of_isNumeric (isNumeric_of_mem_natText hc)
  have hchars : (toString n).toList ≠ [] := fun h =>
    natText_ne_empty n (String.toList_eq_nil_iff.mp h)
  rw [Lexeme.read?_text hplain, Lexeme.ofText, Token.ofText,
    ofTokens_of_wordChars fun c hc => wordChar?_of_isDigit (isDigit_of_mem_natText hc),
    List.nil_append, Lexeme.ofWord, if_neg hchars,
    map_toUpper_of_isNumeric fun c hc => isNumeric_of_mem_natText hc, String.ofList_toList]

theorem number?_natText (n : Nat) : Term.number? (toString n) = some n := by
  have hdigits : (toString n).toList.all Char.isDigit :=
    List.all_eq_true.mpr fun c hc => isDigit_of_mem_natText hc
  have hvalue : Text.decimalValue (toString n).toList = n := by
    rw [Nat.toString_eq_ofList_toDigits, String.toList_ofList, Text.decimalValue,
      ← Nat.ofDigitChars_eq_foldl, Nat.ofDigitChars_ten_toDigits]
  rw [Term.number?, if_pos ⟨natText_ne_empty n, hdigits⟩, hvalue]

/-- The lexemes of an integer, with its sign if it has one. -/
inductive Term.IsInteger : List Lexeme → Int → Prop
  | natural {w : String} {n : Nat} (h : Term.number? w = some n) : IsInteger [.word w] n
  | negative {w : String} {n : Nat} (h : Term.number? w = some n) :
      IsInteger [.symbol '-', .word w] (-n)

/-- A number is none of the words that are read as something else. -/
theorem ofWord?_number {w : String} {n : Nat} (h : Term.number? w = some n) :
    w ≠ "NOT" ∧ Term.ofWord? w = some (.int n) := by
  have hword {k : String} (hk : Term.number? k = none) : w ≠ k := by
    rintro rfl
    rw [hk] at h
    cases h
  refine ⟨hword (by decide), ?_⟩
  rw [Term.ofWord?, if_neg (hword (by decide)), if_neg (hword (by decide)),
    if_neg (hword (by decide)), h]
  rfl

theorem Term.IsInteger.written {ls : List Lexeme} {n : Int} (h : IsInteger ls n) :
    Term.Written ls (.int n) := by
  cases h with
  | natural hw =>
      obtain ⟨hnot, hword⟩ := ofWord?_number hw
      refine Term.written_singleton (by simpa using hnot) fun m rest => ?_
      rw [Term.read, hword]
      rfl
  | @negative w k hw =>
      refine Term.written_of_takes (by decide) fun m _ rest _ => ?_
      have hterm : Term.read (m + 1) (.symbol '-' :: .word w :: rest) =
          (Term.number? w).map fun j : Nat => (.int (-j), rest) := rfl
      exact hterm.trans (by rw [hw]; rfl)

theorem exists_isInteger_intText : ∀ n : Int,
    ∃ ls, Lexeme.read? (toString n) = some ls ∧ Term.IsInteger ls n
  | .ofNat n => ⟨_, read?_natText n, .natural (number?_natText n)⟩
  | .negSucc n =>
      ⟨_, Lexeme.read?_behind "-" (by decide) (by decide) (read?_natText (n + 1)),
        .negative (number?_natText (n + 1))⟩

/-! ### Names -/

namespace NamePart

def lexeme : NamePart → Lexeme
  | name n => .name n
  | star => .symbol '*'

theorem namePart?_lexeme (p : NamePart) : Term.namePart? p.lexeme = some p := by
  cases p <;> rfl

theorem read?_quoteName (cs : List Char) :
    Lexeme.read? (String.ofList (Identifier.quoteName cs)) = some [(ofChars cs).lexeme] := by
  rw [Lexeme.read?, Token.read?_quoteName, Token.ofName, ofChars]
  split <;> rfl

/-- Parts behind the first one, as they are written. -/
def dotted (ps : List NamePart) : List Lexeme := ps.flatMap fun p => [.symbol '.', p.lexeme]

theorem intercalate_lexeme (p : NamePart) (ps : List NamePart) :
    [Lexeme.symbol '.'].intercalate ((p :: ps).map fun q => [q.lexeme]) =
      p.lexeme :: dotted ps := by
  induction ps generalizing p with
  | nil => rfl
  | cons q ps ih =>
      have hrest := ih q
      rw [List.map_cons] at hrest
      rw [List.map_cons, List.map_cons, List.intercalate_cons_cons, hrest]
      rfl

theorem nameTail_dotted (ps : List NamePart) {rest : List Lexeme}
    (hrest : ∀ l ∈ rest.head?, l ∉ [Lexeme.symbol '.']) :
    Term.nameTail (dotted ps ++ rest) = (ps, rest) := by
  induction ps with
  | nil =>
      match rest with
      | [] => rfl
      | [_] => rfl
      | d :: l :: rest =>
          have hd : d ≠ .symbol '.' := by simpa using hrest d rfl
          rw [dotted, List.flatMap_nil, List.nil_append, Term.nameTail, if_neg hd]
  | cons p ps ih =>
      have hcons : dotted (p :: ps) ++ rest = .symbol '.' :: p.lexeme :: (dotted ps ++ rest) := rfl
      rw [hcons, Term.nameTail, if_pos rfl, namePart?_lexeme]
      simp only [ih]

end NamePart

theorem written_name {p : NamePart} {ps : List NamePart} (hstar : p :: ps ≠ [.star]) :
    Term.Written (p.lexeme :: NamePart.dotted ps) (.name (p :: ps)) := by
  refine Term.written_of_takes (by cases p <;> simp [NamePart.lexeme]) fun n _ rest hrest => ?_
  have hread : Term.read (n + 1) (p.lexeme :: (NamePart.dotted ps ++ rest)) =
      Term.readName (p.lexeme :: (NamePart.dotted ps ++ rest)) := by
    cases p <;> rfl
  rw [List.cons_append, hread, Term.readName, NamePart.namePart?_lexeme, Option.bind_some,
    NamePart.nameTail_dotted ps hrest, if_neg hstar]

/-- A name without alias is read as its parts. -/
theorem exists_read?_quoted {id : Identifier} (halias : id.splitAlias? = none) :
    ∃ p ps, id.parts.map NamePart.ofChars = p :: ps ∧
      Lexeme.read? id.quoted = some (p.lexeme :: NamePart.dotted ps) := by
  obtain ⟨p, ps, hparts⟩ := List.exists_cons_of_ne_nil id.parts_ne_nil
  have hread : Lexeme.read? id.quoted = some ([Lexeme.symbol '.'].intercalate
      ((id.parts.map NamePart.ofChars).map fun q => [q.lexeme])) := by
    rw [Identifier.quoted_of_splitAlias? halias, List.map_map]
    refine Lexeme.read?_intercalate "." (by decide) (by decide) (by decide) ?_
    rw [List.forall₂_map_left_iff, List.forall₂_map_right_iff, List.forall₂_same]
    exact fun cs _ => NamePart.read?_quoteName cs
  rw [hparts, List.map_cons, NamePart.intercalate_lexeme] at hread
  exact ⟨_, _, by rw [hparts, List.map_cons], hread⟩

/-- Only the name `*` is a lone star. -/
theorem parts_ne_star {id : Identifier} (hstar : id.raw ≠ "*") :
    id.parts.map NamePart.ofChars ≠ [.star] := by
  intro hlone
  obtain ⟨part, hpart, hofChars⟩ := List.map_eq_singleton_iff.mp hlone
  have hchars : part = ['*'] := by
    unfold NamePart.ofChars at hofChars
    split at hofChars
    · assumption
    · cases hofChars
  exact hstar (Identifier.raw_eq_star (hchars ▸ hpart))

theorem exists_written_identifier {id : Identifier} (hstar : id.raw ≠ "*")
    (halias : id.splitAlias? = none) :
    ∃ ls, Lexeme.read? id.quoted = some ls ∧
      Term.Written ls (.name (id.parts.map NamePart.ofChars)) := by
  obtain ⟨p, ps, hparts, hread⟩ := exists_read?_quoted halias
  have hne := parts_ne_star hstar
  rw [hparts] at hne ⊢
  exact ⟨_, hread, written_name hne⟩

/-! ### Lists of values -/

theorem length_le_intercalate {α : Type} (sep : List α) {lss : List (List α)}
    (hne : ∀ ls ∈ lss, ls ≠ []) : lss.length ≤ (sep.intercalate lss).length := by
  induction lss with
  | nil => exact Nat.zero_le _
  | cons ls lss ih =>
      have hls : 0 < ls.length := List.length_pos_iff.mpr (hne ls List.mem_cons_self)
      have hrest := ih fun ms hms => hne ms (List.mem_cons_of_mem ls hms)
      cases lss with
      | nil =>
          rw [List.intercalate_singleton]
          exact hls
      | cons ms lss =>
          rw [List.intercalate_cons_cons, List.length_append, List.length_append,
            List.length_cons]
          omega

theorem intercalate_ne_nil {α : Type} (sep : List α) {lss : List (List α)} (hne : lss ≠ [])
    (hnonempty : ∀ ls ∈ lss, ls ≠ []) : sep.intercalate lss ≠ [] := by
  have hcount := length_le_intercalate sep hnonempty
  have hpos := List.length_pos_iff.mpr hne
  exact List.length_pos_iff.mp (Nat.lt_of_lt_of_le hpos hcount)

/-- Results with `sep` between them, where the number of lexemes is enough to take each of them. -/
theorem Reader.Takes.separated_of_length_le {α : Type} {p : Reader α} {ks : List Lexeme}
    {sep : Lexeme} (hsep : sep ∉ ks) {items : List (List Lexeme × α)} (hne : items ≠ [])
    (hnonempty : ∀ i ∈ items, i.1 ≠ []) {n : Nat}
    (hn : ([sep].intercalate (items.map (·.1))).length ≤ n)
    (hitems : ∀ i ∈ items, i.1.length ≤ n → p.Takes ks i.1 i.2) :
    (Reader.separated p sep n).Takes (sep :: ks) ([sep].intercalate (items.map (·.1)))
      (items.map (·.2)) := by
  have hcount : items.length ≤ ([sep].intercalate (items.map (·.1))).length := by
    have hlexemes : ∀ ls ∈ items.map (·.1), ls ≠ [] := by simpa using hnonempty
    have hle := length_le_intercalate [sep] hlexemes
    rwa [List.length_map] at hle
  refine separated hsep hne (Nat.le_trans hcount hn) fun i hi => hitems i hi ?_
  have hsub : i.1 <:+: [sep].intercalate (items.map (·.1)) :=
    isInfix_intercalate (List.mem_map_of_mem hi)
  exact Nat.le_trans hsub.length_le hn

namespace Term

theorem Written.ne_nil {ls : List Lexeme} {t : Term} (h : Written ls t) : ls ≠ [] := by
  obtain ⟨⟨l, rest, rfl, -⟩, -⟩ := h
  exact List.cons_ne_nil l rest

/-- Terms with commas between them, each with its lexemes. -/
def listed (items : List (List Lexeme × Term)) : List Lexeme :=
  [Lexeme.symbol ','].intercalate (items.map (·.1))

theorem takes_listed {items : List (List Lexeme × Term)} (hne : items ≠ [])
    (hitems : ∀ i ∈ items, Written i.1 i.2) {n : Nat} (hn : (listed items).length ≤ n) :
    (Reader.separated (read n) (.symbol ',') n).Takes [.symbol ',', .symbol '.'] (listed items)
      (items.map (·.2)) :=
  Reader.Takes.separated_of_length_le (by decide) hne (fun i hi => (hitems i hi).ne_nil) hn
    fun i hi => (hitems i hi).2 n

theorem head_listed {items : List (List Lexeme × Term)} (hne : items ≠ [])
    (hitems : ∀ i ∈ items, Written i.1 i.2) :
    ∃ l rest, listed items = l :: rest ∧ l ≠ .symbol ']' := by
  obtain ⟨i, items, rfl⟩ := List.exists_cons_of_ne_nil hne
  obtain ⟨⟨l, rest, hl, hmem⟩, -⟩ := hitems i List.mem_cons_self
  have hclose : l ≠ .symbol ']' := by
    rintro rfl
    exact hmem (by decide)
  cases items with
  | nil => exact ⟨l, rest, by simp [listed, hl], hclose⟩
  | cons j items =>
      refine ⟨l, rest ++ [.symbol ','] ++ listed (j :: items), ?_, hclose⟩
      simp [listed, List.intercalate_cons_cons, hl]

theorem read_bracket (n : Nat) (ls : List Lexeme) :
    read (n + 1) (.symbol '[' :: ls) =
      match skip? [.symbol ']'] ls with
      | some rest => some (array [], rest)
      | none =>
          Reader.map array
            (Reader.bracketed '[' ']' (Reader.separated (read n) (.symbol ',') n))
            (.symbol '[' :: ls) := rfl

theorem written_empty : Written [.symbol '[', .symbol ']'] (array []) :=
  written_of_takes (by decide) fun _ _ _ _ => rfl

theorem written_array {items : List (List Lexeme × Term)} (hne : items ≠ [])
    (hitems : ∀ i ∈ items, Written i.1 i.2) :
    Written (.symbol '[' :: (listed items ++ [.symbol ']'])) (array (items.map (·.2))) := by
  refine written_of_takes (by decide) fun n hn rest _ => ?_
  rw [List.length_append] at hn
  have hlist := takes_listed hne hitems (n := n) (by omega)
  have hbracketed := ((hlist.bracketed (o := '[') (c := ']') (by decide)).map array) rest (by simp)
  obtain ⟨l, ls, hl, hclose⟩ := head_listed hne hitems
  have hskip : skip? [.symbol ']'] (listed items ++ [.symbol ']'] ++ rest) = none := by
    rw [hl]
    exact skip?_eq_none fun k hk => by cases hk; exact hclose
  rw [List.cons_append, read_bracket, hskip]
  exact hbracketed

end Term

/-! ### Values -/

namespace Value

/-- The value has a term, and its text is read as that term. -/
def ReadsBack (v : Value) : Prop :=
  ∃ t ls, v.term? = some t ∧ Lexeme.read? v.sql = some ls ∧ Term.Written ls t

theorem readsBack_list {vs : List Value} (h : ∀ v ∈ vs, v.ReadsBack) :
    ∃ items : List (List Lexeme × Term), termList? vs = some (items.map (·.2)) ∧
      List.Forall₂ (fun s ls => Lexeme.read? s = some ls) (sqlList vs) (items.map (·.1)) ∧
      ∀ i ∈ items, Term.Written i.1 i.2 := by
  induction vs with
  | nil => exact ⟨[], rfl, List.Forall₂.nil, fun _ hi => nomatch hi⟩
  | cons v vs ih =>
      obtain ⟨t, ls, ht, hls, hwritten⟩ := h v List.mem_cons_self
      obtain ⟨items, hitems, hread, hall⟩ := ih fun w hw => h w (List.mem_cons_of_mem v hw)
      refine ⟨(ls, t) :: items, ?_, List.Forall₂.cons hls hread, ?_⟩
      · rw [termList?, ht, hitems]
        rfl
      · intro i hi
        rcases List.mem_cons.mp hi with rfl | hi
        · exact hwritten
        · exact hall i hi

/-- The elements of a list, with commas between them. -/
theorem read?_commaList {vs : List Value} {items : List (List Lexeme × Term)}
    (h : List.Forall₂ (fun s ls => Lexeme.read? s = some ls) (sqlList vs) (items.map (·.1))) :
    Lexeme.read? (Text.commaList (sqlList vs)) = some (Term.listed items) :=
  Lexeme.read?_intercalate ", " (by decide) (by decide) (by decide) h

theorem readsBack_array {items : List Value} (h : ∀ v ∈ items, v.ReadsBack) :
    (array items).ReadsBack := by
  obtain ⟨pairs, hterms, hread, hwritten⟩ := readsBack_list h
  have hinner := read?_commaList hread
  have hopen := Lexeme.read?_behind "[" (by decide) (by decide) hinner
  have htext := Lexeme.read?_before "]" (by decide) (by decide) hopen
  have hterm : (array items).term? = some (.array (pairs.map (·.2))) := by
    rw [term?, hterms]
    rfl
  refine ⟨_, _, hterm, htext, ?_⟩
  by_cases hne : pairs = []
  · subst hne
    exact Term.written_empty
  · exact Term.written_array hne hwritten

/-- **Plain values are read back.** -/
theorem IsPlain.readsBack {v : Value} (h : v.IsPlain) : v.ReadsBack := by
  induction h with
  | null =>
      exact ⟨_, [.word "NULL"], rfl, by decide, Term.written_singleton (by decide) fun _ _ => rfl⟩
  | bool b =>
      cases b with
      | false =>
          exact ⟨_, [.word "FALSE"], rfl, by decide,
            Term.written_singleton (by decide) fun _ _ => rfl⟩
      | true =>
          exact ⟨_, [.word "TRUE"], rfl, by decide,
            Term.written_singleton (by decide) fun _ _ => rfl⟩
  | int n =>
      obtain ⟨ls, hls, hinteger⟩ := exists_isInteger_intText n.toInt
      exact ⟨_, ls, rfl, hls, hinteger.written⟩
  | uint n =>
      exact ⟨_, _, rfl, read?_natText n.toNat, (Term.IsInteger.natural (number?_natText _)).written⟩
  | string s =>
      refine ⟨_, [.string s], rfl, ?_, Term.written_singleton (by simp) fun _ _ => rfl⟩
      rw [Lexeme.read?, sql, Token.read?_quote]
      rfl
  | identifier hstar halias =>
      obtain ⟨ls, hls, hwritten⟩ := exists_written_identifier hstar halias
      exact ⟨_, ls, rfl, hls, hwritten⟩
  | array _ ih => exact readsBack_array ih

end Value

end FluentSql
