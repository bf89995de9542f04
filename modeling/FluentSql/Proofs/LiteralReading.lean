import FluentSql.Proofs.TermReading

/-! # Literals as a prefix code

A reader of literals, character by character: `null`, `true` and `false`, decimal integers, texts
between single quotes, and lists in square brackets.  It takes a literal from the front of a text
and says what is left.

In front of nothing, a comma, a space or a closing bracket, the literal of a value is read back
and nothing behind it is touched, whatever characters stand in its texts and however deep its arrays
nest (`Value.IsLiteral.written`).  Numbers do not say which of the two integer types they
had, so what is read is the value with its unsigned integers made signed where they fit
(`Value.signed`), and this is all that a literal does not tell (`Value.read?_sql`). -/

namespace FluentSql

/-- A reader takes a result from the front of a text and returns the rest. -/
abbrev TextReader (α : Type) := List Char → Option (α × List Char)

namespace TextReader

variable {α : Type}

/-- The longest text of characters in `p`, as what it stands for. -/
def spanned (p : Char → Bool) (meaning : String → Option α) : TextReader α := fun cs =>
  (meaning (String.ofList (cs.takeWhile p))).map fun x => (x, cs.dropWhile p)

/-- One or more results with a comma and a space between them, at most `n`. -/
def listed (p : TextReader α) : Nat → TextReader (List α)
  | 0, _ => none
  | n + 1, cs =>
      (p cs).bind fun r =>
        match r.2 with
        | ',' :: ' ' :: rest => (listed p n rest).map fun rs => (r.1 :: rs.1, rs.2)
        | rest => some ([r.1], rest)

/-- Results between two brackets, at most `n`; there may be none. -/
def bracketed (o c : Char) (p : TextReader α) (n : Nat) : TextReader (List α)
  | [] => none
  | d :: cs =>
      if d ≠ o then none
      else if cs.head? = some c then some ([], cs.tail)
      else
        (listed p n cs).bind fun r => if r.2.head? = some c then some (r.1, r.2.tail) else none

/-- What a reader takes from a text of which nothing is left. -/
def whole? (p : TextReader α) (cs : List Char) : Option α :=
  match p cs with
  | some (x, []) => some x
  | _ => none

/-! ### What a reader takes -/

/-- The reader takes `x` from `text` in front of nothing or one of the characters `ends`. -/
def Takes (p : TextReader α) (ends text : List Char) (x : α) : Prop :=
  ∀ rest : List Char, (∀ c ∈ rest.head?, c ∈ ends) → p (text ++ rest) = some (x, rest)

namespace Takes

variable {p : TextReader α} {ends text : List Char} {x : α}

theorem whole? (h : p.Takes ends text x) : p.whole? text = some x := by
  have hread := h [] (by simp)
  rw [List.append_nil] at hread
  rw [TextReader.whole?, hread]

theorem spanned {q : Char → Bool} {meaning : String → Option α} (htext : ∀ c ∈ text, q c)
    (hends : ∀ c ∈ ends, q c = false) (hx : meaning (String.ofList text) = some x) :
    (TextReader.spanned q meaning).Takes ends text x := by
  intro rest hrest
  have htake : rest.takeWhile q = [] := by
    cases rest with
    | nil => rfl
    | cons c rest => simp [hends c (hrest c rfl)]
  have hdrop : rest.dropWhile q = rest := by
    cases rest with
    | nil => rfl
    | cons c rest => simp [hends c (hrest c rfl)]
  rw [TextReader.spanned, List.takeWhile_append_of_pos htext, List.dropWhile_append_of_pos htext,
    htake, hdrop, List.append_nil, hx]
  rfl

section Lists

variable {β : Type} {text : β → List Char} {meaning : β → α}

/-- Results with a comma and a space between them, each taken by itself in front of a comma. -/
theorem listed {ends' : List Char} (hcomma : ',' ∈ ends) (hends : ends' ⊆ ends)
    (hlast : ',' ∉ ends') : ∀ {bs : List β} {n : Nat}, bs ≠ [] → bs.length ≤ n →
      (∀ b ∈ bs, p.Takes ends (text b) (meaning b)) →
        (TextReader.listed p n).Takes ends' ([',', ' '].intercalate (bs.map text)) (bs.map meaning)
  | [], _, hne, _, _ => absurd rfl hne
  | _ :: _, 0, _, hn, _ => absurd hn (by simp)
  | [b], n + 1, _, _, hbs => by
      intro rest hrest
      have hb := hbs b List.mem_cons_self rest fun c hc => hends (hrest c hc)
      simp only [List.map_cons, List.map_nil, List.intercalate_singleton, TextReader.listed]
      rw [hb, Option.bind_some]
      -- what follows does not begin with a comma
      split
      · rename_i hcommaRest
        exact absurd (hrest ',' (by simp [show rest = _ from hcommaRest])) hlast
      · rfl
  | b :: d :: bs, n + 1, _, hn, hbs => by
      intro rest hrest
      have hrest' := listed hcomma hends hlast (List.cons_ne_nil d bs)
        (Nat.le_of_succ_le_succ hn) (fun e he => hbs e (List.mem_cons_of_mem b he)) rest hrest
      have hb := hbs b List.mem_cons_self
        (',' :: ' ' :: ([',', ' '].intercalate ((d :: bs).map text) ++ rest))
        (by simpa using hcomma)
      have hsplit : [',', ' '].intercalate ((b :: d :: bs).map text) ++ rest =
          text b ++ (',' :: ' ' :: ([',', ' '].intercalate ((d :: bs).map text) ++ rest)) := by
        simp only [List.map_cons, List.intercalate_cons_cons, List.append_assoc, List.cons_append,
          List.nil_append]
      rw [hsplit, TextReader.listed, hb, Option.bind_some]
      simp only [hrest']
      rfl

/-- Results between brackets, none of which begins like the closing bracket. -/
theorem bracketed {o c : Char} (hcomma : ',' ∈ ends) (hclose : c ∈ ends) (hc : c ≠ ',')
    {bs : List β} {n : Nat} (hn : bs.length ≤ n)
    (hhead : ∀ b ∈ bs, ∃ d ds, text b = d :: ds ∧ d ≠ c)
    (hbs : ∀ b ∈ bs, p.Takes ends (text b) (meaning b)) (ends' : List Char) :
    (TextReader.bracketed o c p n).Takes ends'
      (o :: ([',', ' '].intercalate (bs.map text) ++ [c])) (bs.map meaning) := by
  intro rest _
  rw [List.cons_append, List.append_assoc, List.singleton_append, TextReader.bracketed,
    if_neg (not_not_intro rfl)]
  by_cases hne : bs = []
  · subst hne
    simp
  · have hlist : (TextReader.listed p n).Takes [c] ([',', ' '].intercalate (bs.map text))
        (bs.map meaning) :=
      listed hcomma (by simpa using hclose) (by simpa using hc.symm) hne hn hbs
    obtain ⟨b, bs, rfl⟩ := List.exists_cons_of_ne_nil hne
    obtain ⟨d, ds, hd, hdc⟩ := hhead b List.mem_cons_self
    have hopen : ([',', ' '].intercalate ((b :: bs).map text) ++ c :: rest).head? = some d := by
      cases bs with
      | nil => simp [hd]
      | cons e bs => simp [hd, List.intercalate_cons_cons]
    rw [hopen, if_neg (by simpa using hdc), hlist (c :: rest) (by simp)]
    simp

end Lists

end Takes

end TextReader

/-! ### Reading literals -/

namespace Literal

open TextReader (spanned bracketed listed)

/-- The whole number `n` as a value, signed when it fits. -/
def ofWhole? (n : Int) : Option Value :=
  if -Nat.pow 2 63 ≤ n ∧ n < Nat.pow 2 63 then some (.int (Int64.ofInt n))
  else if 0 ≤ n ∧ n < Nat.pow 2 64 then some (.uint (UInt64.ofNat n.toNat))
  else none

/-- The value that digits write, behind a minus sign or without one. -/
def ofDigits? (negative : Bool) (digits : String) : Option Value :=
  (Term.number? digits).bind fun n : Nat => ofWhole? (if negative then -n else n)

/-- The value that a word stands for. -/
def ofWord? (w : String) : Option Value :=
  if w = "null" then some .null
  else if w = "true" then some (.bool true)
  else if w = "false" then some (.bool false)
  else none

/-- The characters of a text behind its opening quote, or behind a backslash in it.  A backslash
takes the next character out of its role, and a backslash with a zero is NUL. -/
def readString : (escaped : Bool) → TextReader (List Char)
  | _, [] => none
  | true, c :: cs => (readString false cs).map fun r => (Token.unescape c :: r.1, r.2)
  | false, c :: cs =>
      if c = '\'' then some ([], cs)
      else if c = '\\' then readString true cs
      else (readString false cs).map fun r => (c :: r.1, r.2)

/-- A literal, with lists nested less than `n` deep. -/
def read : Nat → TextReader Value
  | 0, _ => none
  | _ + 1, [] => none
  | n + 1, c :: cs =>
      if c = '\'' then (readString false cs).map fun r => (.string (String.ofList r.1), r.2)
      else if c = '[' then (bracketed '[' ']' (read n) n (c :: cs)).map fun r => (.array r.1, r.2)
      else if c = '-' then spanned Char.isDigit (ofDigits? true) cs
      else if c.isDigit then spanned Char.isDigit (ofDigits? false) (c :: cs)
      else spanned Char.isAlpha ofWord? (c :: cs)

/-- A literal; no text nests lists deeper than it is long. -/
def read? : TextReader Value := fun cs => read cs.length cs

/-- The values of a list of literals without brackets. -/
def readTuple? (s : String) : Option (List Value) :=
  if s = "" then some []
  else (listed (read s.toList.length) s.toList.length).whole? s.toList

/-- The characters in front of which a literal ends. -/
def closers : List Char := [',', ' ', ')', ']']

end Literal

namespace Value

/-- The values that are literals of their own: neither floating point numbers nor names nor raw
SQL. -/
inductive IsLiteral : Value → Prop
  | null : IsLiteral .null
  | bool (b : Bool) : IsLiteral (.bool b)
  | int (n : Int64) : IsLiteral (.int n)
  | uint (n : UInt64) : IsLiteral (.uint n)
  | string (s : String) : IsLiteral (.string s)
  | array {items : List Value} (hitems : ∀ v ∈ items, IsLiteral v) : IsLiteral (.array items)

mutual

/-- The value with each unsigned integer replaced by the equal signed one, if there is one. -/
def signed : Value → Value
  | .uint n => if n.toNat < Nat.pow 2 63 then .int (Int64.ofNat n.toNat) else .uint n
  | .array items => .array (signedList items)
  | v => v

def signedList : List Value → List Value
  | [] => []
  | v :: vs => v.signed :: signedList vs

end

theorem signedList_eq_map (vs : List Value) : signedList vs = vs.map signed := by
  induction vs with
  | nil => rfl
  | cons v vs ih => rw [signedList, ih, List.map_cons]

theorem signed_array (items : List Value) : (array items).signed = .array (items.map signed) := by
  rw [signed, signedList_eq_map]

mutual

/-- The sign of the type of an integer is not seen in its literal. -/
theorem sql_signed : ∀ v : Value, v.signed.sql = v.sql
  | .uint n => by
      rw [signed]
      split
      · rename_i hn
        have hvalue : (Int64.ofNat n.toNat).toInt = n.toNat := Int64.toInt_ofNat_of_lt hn
        rw [sql, sql, hvalue]
        rfl
      · rfl
  | .array items => by rw [signed, sql, sql, sqlList_signedList items]
  | .null | .bool _ | .int _ | .float _ | .string _ | .identifier _ | .raw _ => rfl

theorem sqlList_signedList : ∀ vs : List Value, sqlList (signedList vs) = sqlList vs
  | [] => rfl
  | v :: vs => by rw [signedList, sqlList, sqlList, sql_signed v, sqlList_signedList vs]

end

end Value

/-! ### Literals and what they are read as -/

namespace Literal

open TextReader (bracketed listed)

/-- The text `cs` is read as the value `v` and does not begin like what closes a literal. -/
def Written (cs : List Char) (v : Value) : Prop :=
  (∃ c rest, cs = c :: rest ∧ c ∉ closers) ∧ ∀ n, cs.length ≤ n → (read n).Takes closers cs v

theorem Written.ne_nil {cs : List Char} {v : Value} (h : Written cs v) : cs ≠ [] := by
  obtain ⟨⟨c, rest, rfl, -⟩, -⟩ := h
  exact List.cons_ne_nil c rest

/-- A text whose first character tells which reader takes it. -/
theorem written_of_takes {c : Char} {cs : List Char} {v : Value} (hc : c ∉ closers)
    (h : ∀ n, cs.length ≤ n → (read (n + 1)).Takes closers (c :: cs) v) : Written (c :: cs) v := by
  refine ⟨⟨c, cs, rfl, hc⟩, ?_⟩
  intro n hn
  obtain ⟨n, rfl⟩ := Nat.exists_eq_add_of_le' (Nat.le_trans (Nat.le_add_left 1 _) hn)
  exact h n (Nat.le_of_succ_le_succ hn)

theorem isAlpha_of_mem_closers {c : Char} (h : c ∈ closers) : c.isAlpha = false := by
  have hall : closers.all fun d => !d.isAlpha := by decide
  simpa using List.all_eq_true.mp hall c h

theorem isDigit_of_mem_closers {c : Char} (h : c ∈ closers) : c.isDigit = false := by
  have hall : closers.all fun d => !d.isDigit := by decide
  simpa using List.all_eq_true.mp hall c h

/-! ### Words -/

theorem not_isDigit_of_isAlpha {c : Char} (h : c.isAlpha) : ¬ c.isDigit := by
  intro hd
  have hdigit := (Char.isDigit_iff_toNat.mp hd).2
  have hnine : '9'.toNat = 0x39 := rfl
  have hletter : 0x41 ≤ c.toNat := by
    obtain hupper | hlower := Bool.or_eq_true_iff.mp h
    · have hbounds : 'A'.val ≤ c.val ∧ c.val ≤ 'Z'.val := of_decide_eq_true hupper
      exact UInt32.le_iff_toNat_le.mp hbounds.1
    · obtain ⟨hlow, -⟩ := Bool.and_eq_true_iff.mp hlower
      have ha : 0x61 ≤ c.toNat := UInt32.le_iff_toNat_le.mp (of_decide_eq_true hlow)
      omega
  omega

theorem written_word {c : Char} {cs : List Char} {v : Value} (hcs : (c :: cs).all Char.isAlpha)
    (hv : ofWord? (String.ofList (c :: cs)) = some v) : Written (c :: cs) v := by
  have hword := List.all_eq_true.mp hcs
  have hc : Char.isAlpha c := hword c List.mem_cons_self
  have hne : ∀ d : Char, Char.isAlpha d = false → c ≠ d := by
    rintro d hd rfl
    exact absurd hc (by simp [hd])
  have hdigit := not_isDigit_of_isAlpha hc
  have htakes := TextReader.Takes.spanned hword (fun d hd => isAlpha_of_mem_closers hd) hv
  have hclose : c ∉ closers := fun hmem => absurd hc (by simp [isAlpha_of_mem_closers hmem])
  refine written_of_takes hclose fun n _ rest hrest => ?_
  rw [List.cons_append, read, if_neg (hne _ rfl), if_neg (hne _ rfl), if_neg (hne _ rfl),
    if_neg hdigit]
  exact htakes rest hrest

/-! ### Numbers -/

theorem ofDigits?_natText (negative : Bool) (n : Nat) :
    ofDigits? negative (toString n) = ofWhole? (if negative then -n else n) := by
  rw [ofDigits?, number?_natText]
  rfl

theorem takes_digits {negative : Bool} {n : Nat} {v : Value}
    (hv : ofWhole? (if negative then -n else n) = some v) :
    (TextReader.spanned Char.isDigit (ofDigits? negative)).Takes closers (toString n).toList v := by
  have hmeaning : ofDigits? negative (String.ofList (toString n).toList) = some v := by
    rw [String.ofList_toList, ofDigits?_natText, hv]
  exact TextReader.Takes.spanned (fun c hc => isDigit_of_mem_natText hc)
    (fun c hc => isDigit_of_mem_closers hc) hmeaning

/-- A number is read as the value that it has. -/
theorem written_intText {n : Int} {v : Value} (hv : ofWhole? n = some v) :
    Written (toString n).toList v := by
  cases n with
  | ofNat n =>
      have htakes : (TextReader.spanned Char.isDigit (ofDigits? false)).Takes closers
          (toString n).toList v := takes_digits hv
      have htext : toString (Int.ofNat n) = toString n := rfl
      have hne : (toString n).toList ≠ [] := fun h =>
        natText_ne_empty n (String.toList_eq_nil_iff.mp h)
      obtain ⟨c, cs, hcs⟩ := List.exists_cons_of_ne_nil hne
      have hdigit : c.isDigit :=
        isDigit_of_mem_natText (n := n) (by rw [hcs]; exact List.mem_cons_self)
      have hother : ∀ d : Char, d.isDigit = false → c ≠ d := by
        rintro d hd rfl
        exact absurd hdigit (by simp [hd])
      rw [htext]
      rw [hcs] at htakes ⊢
      refine written_of_takes ?_ fun m _ rest hrest => ?_
      · exact fun hmem => absurd hdigit (by simp [isDigit_of_mem_closers hmem])
      · rw [List.cons_append, read, if_neg (hother _ rfl), if_neg (hother _ rfl),
          if_neg (hother _ rfl), if_pos hdigit]
        exact htakes rest hrest
  | negSucc n =>
      have htakes : (TextReader.spanned Char.isDigit (ofDigits? true)).Takes closers
          (toString (n + 1)).toList v := takes_digits hv
      have htext : (toString (Int.negSucc n)).toList = '-' :: (toString (n + 1)).toList := by
        rw [toString_negSucc, String.toList_append]
        rfl
      rw [htext]
      refine written_of_takes (by decide) fun m _ rest hrest => ?_
      rw [List.cons_append, read, if_neg (by decide), if_neg (by decide), if_pos rfl]
      exact htakes rest hrest

theorem two_pow_63 : Nat.pow 2 63 = 9223372036854775808 := rfl

theorem two_pow_64 : Nat.pow 2 64 = 18446744073709551616 := rfl

theorem ofWhole?_int (n : Int64) : ofWhole? n.toInt = some (.int n) := by
  have hle := n.le_toInt
  have hlt := n.toInt_lt
  rw [ofWhole?, two_pow_63, if_pos ⟨by omega, by omega⟩, Int64.ofInt_toInt]

theorem ofWhole?_uint (n : UInt64) : ofWhole? n.toNat = some (Value.uint n).signed := by
  have hlt := n.toNat_lt
  rw [ofWhole?, Value.signed, two_pow_63, two_pow_64]
  by_cases hn : n.toNat < 9223372036854775808
  · rw [if_pos (by omega), if_pos hn]
    rfl
  · rw [if_neg (by omega), if_pos (by omega), if_neg hn, Int.toNat_natCast, UInt64.ofNat_toNat]

/-! ### Texts -/

theorem readString_escapeChar (c : Char) (ys : List Char) :
    readString false (Text.escapeChar c ++ ys) =
      (readString false ys).map fun r => (c :: r.1, r.2) := by
  unfold Text.escapeChar
  split
  · rename_i h
    have hc : Token.unescape c = c := by
      rcases h with rfl | rfl | rfl <;> rfl
    simp [readString, hc]
  · rename_i h
    simp only [not_or] at h
    split
    · rename_i h0
      simp [readString, Token.unescape, h0]
    · simp [readString, h.1, h.2.2]

/-- The inside of a literal is read back up to its closing quote and no further. -/
theorem readString_escape (cs ys : List Char) :
    readString false (Text.escape cs ++ '\'' :: ys) = some (cs, ys) := by
  induction cs with
  | nil => simp [readString]
  | cons c cs ih =>
      rw [Text.escape_cons, List.append_assoc, readString_escapeChar, ih]
      rfl

theorem written_quote (s : String) : Written (Text.quote s).toList (.string s) := by
  rw [Text.toList_quote]
  refine written_of_takes (by decide) fun n _ rest _ => ?_
  have hread := readString_escape s.toList rest
  rw [List.cons_append, List.append_assoc, List.singleton_append, read, if_pos rfl, hread,
    Option.map_some, String.ofList_toList]

/-! ### Lists -/

section CommaList

variable {β : Type} {text : β → String}

theorem toList_commaList_map (text : β → String) (bs : List β) :
    (Text.commaList (bs.map text)).toList =
      [',', ' '].intercalate (bs.map fun b => (text b).toList) := by
  rw [Text.commaList, String.toList_intercalate, List.map_map]
  rfl

/-- A list of texts that are not empty is not shorter than it has items. -/
theorem length_le_commaList {bs : List β} (h : ∀ b ∈ bs, (text b).toList ≠ []) :
    bs.length ≤ (Text.commaList (bs.map text)).toList.length := by
  have hle : (bs.map fun b => (text b).toList).length ≤ _ :=
    length_le_intercalate [',', ' '] (by simpa using h)
  rwa [List.length_map, ← toList_commaList_map] at hle

/-- No item is longer than the list. -/
theorem length_le_commaList_of_mem {bs : List β} {b : β} (hb : b ∈ bs) :
    (text b).toList.length ≤ (Text.commaList (bs.map text)).toList.length := by
  have hsub : (text b).toList <:+: [',', ' '].intercalate (bs.map fun b => (text b).toList) :=
    isInfix_intercalate (List.mem_map_of_mem hb)
  rw [← toList_commaList_map] at hsub
  exact hsub.length_le

/-- A list whose items are each taken in front of a comma is read to its end. -/
theorem whole?_listed {α : Type} {p : TextReader α} {ends : List Char} {meaning : β → α}
    {bs : List β} {n : Nat} (hcomma : ',' ∈ ends) (hne : bs ≠ []) (hn : bs.length ≤ n)
    (hbs : ∀ b ∈ bs, p.Takes ends (text b).toList (meaning b)) :
    (listed p n).whole? (Text.commaList (bs.map text)).toList = some (bs.map meaning) := by
  have htakes : (listed p n).Takes [] ([',', ' '].intercalate (bs.map fun b => (text b).toList))
      (bs.map meaning) :=
    TextReader.Takes.listed hcomma (List.nil_subset _) List.not_mem_nil hne hn hbs
  rw [toList_commaList_map]
  exact htakes.whole?

end CommaList

variable {vs : List Value}

theorem toList_commaList_sqlList (vs : List Value) :
    (Text.commaList (Value.sqlList vs)).toList =
      [',', ' '].intercalate (vs.map fun v => v.sql.toList) := by
  rw [Value.sqlList_eq_map, toList_commaList_map]

theorem length_le_commaList_sqlList (h : ∀ v ∈ vs, Written v.sql.toList v.signed) :
    vs.length ≤ (Text.commaList (Value.sqlList vs)).toList.length := by
  rw [Value.sqlList_eq_map]
  exact length_le_commaList fun v hv => (h v hv).ne_nil

/-- Each literal of a list is read if the bound covers the list. -/
theorem takes_of_mem (h : ∀ v ∈ vs, Written v.sql.toList v.signed) {n : Nat}
    (hn : (Text.commaList (Value.sqlList vs)).toList.length ≤ n) :
    ∀ v ∈ vs, (read n).Takes closers v.sql.toList v.signed := by
  intro v hv
  rw [Value.sqlList_eq_map] at hn
  exact (h v hv).2 n (Nat.le_trans (length_le_commaList_of_mem hv) hn)

/-- Literals between brackets are read back, whatever follows. -/
theorem takes_bracketed {o c : Char} (hc : c ∈ closers) (hcomma : c ≠ ',')
    (h : ∀ v ∈ vs, Written v.sql.toList v.signed) {n : Nat}
    (hn : (Text.commaList (Value.sqlList vs)).toList.length ≤ n) (ends : List Char) :
    (bracketed o c (read n) n).Takes ends
      (o :: ((Text.commaList (Value.sqlList vs)).toList ++ [c])) (vs.map Value.signed) := by
  have hhead : ∀ v ∈ vs, ∃ d ds, v.sql.toList = d :: ds ∧ d ≠ c := by
    intro v hv
    obtain ⟨⟨d, ds, hd, hmem⟩, -⟩ := h v hv
    refine ⟨d, ds, hd, ?_⟩
    rintro rfl
    exact hmem hc
  rw [toList_commaList_sqlList]
  exact TextReader.Takes.bracketed (by decide) hc hcomma
    (Nat.le_trans (length_le_commaList_sqlList h) hn) hhead (takes_of_mem h hn) ends

theorem written_array (h : ∀ v ∈ vs, Written v.sql.toList v.signed) :
    Written (Value.array vs).sql.toList (Value.array vs).signed := by
  have htext : (Value.array vs).sql.toList =
      '[' :: ((Text.commaList (Value.sqlList vs)).toList ++ [']']) := by
    rw [Value.sql, String.toList_append, String.toList_append]
    rfl
  rw [htext, Value.signed_array]
  refine written_of_takes (by decide) fun n hn rest hrest => ?_
  have hle : (Text.commaList (Value.sqlList vs)).toList.length ≤ n :=
    Nat.le_trans (List.prefix_append _ _).length_le hn
  have hread := takes_bracketed (o := '[') (c := ']') (by decide) (by decide) h hle closers rest
    hrest
  rw [List.cons_append] at hread ⊢
  rw [read, if_neg (by decide), if_pos rfl, hread]
  rfl

/-- A list of literals is read to its end. -/
theorem readTuple?_sql (h : ∀ v ∈ vs, Written v.sql.toList v.signed) :
    readTuple? (Tuple.sql ⟨vs⟩) = some (vs.map Value.signed) := by
  unfold readTuple? Tuple.sql
  by_cases hne : vs = []
  · subst hne
    rfl
  · have htext : Text.commaList (Value.sqlList vs) ≠ "" := by
      rw [ne_eq, ← String.toList_eq_nil_iff, ← List.length_eq_zero_iff]
      have hlength := length_le_commaList_sqlList h
      have hpos := List.length_pos_iff.mpr hne
      omega
    rw [if_neg htext, Value.sqlList_eq_map]
    exact whole?_listed (by decide) hne (Value.sqlList_eq_map vs ▸ length_le_commaList_sqlList h)
      (takes_of_mem h (by rw [Value.sqlList_eq_map]))

end Literal

/-! ### Values -/

/-- The literal of a value is read as the value. -/
theorem Value.IsLiteral.written {v : Value} (h : v.IsLiteral) :
    Literal.Written v.sql.toList v.signed := by
  induction h with
  | null => exact Literal.written_word (by decide) rfl
  | bool b =>
      cases b with
      | false => exact Literal.written_word (by decide) rfl
      | true => exact Literal.written_word (by decide) rfl
  | int n => exact Literal.written_intText (Literal.ofWhole?_int n)
  | uint n =>
      have htext : (Value.uint n).sql = toString (n.toNat : Int) := rfl
      rw [htext]
      exact Literal.written_intText (Literal.ofWhole?_uint n)
  | string s => exact Literal.written_quote s
  | array _ ih => exact Literal.written_array ih

/-- A literal is read in front of nothing or a character that closes it. -/
theorem Value.IsLiteral.read?_append {v : Value} (h : v.IsLiteral) {t : List Char}
    (ht : ∀ c ∈ t.head?, c ∈ Literal.closers) :
    Literal.read? (v.sql.toList ++ t) = some (v.signed, t) :=
  h.written.2 _ (List.prefix_append _ _).length_le t ht

/-- Equal literals are those of values that agree up to the types of their integers. -/
theorem Value.IsLiteral.sql_eq_iff {v w : Value} (hv : v.IsLiteral) (hw : w.IsLiteral) :
    v.sql = w.sql ↔ v.signed = w.signed := by
  constructor
  · intro h
    have hreadv := hv.read?_append (t := []) (by simp)
    have hreadw := hw.read?_append (t := []) (by simp)
    rw [h, hreadw] at hreadv
    exact (Prod.mk.inj (Option.some.inj hreadv)).1.symm
  · intro h
    rw [← sql_signed v, h, sql_signed w]

/-- **Literals are a prefix code.**  In front of nothing, a comma, a space or a closing bracket the
literal of a value is read as that value, and what follows is left; so the literal determines
the value, and a list of literals the list of values, up to the types of integers. -/
theorem Value.read?_sql :
    (∀ v : Value, v.IsLiteral → ∀ t : List Char, (∀ c ∈ t.head?, c ∈ [',', ' ', ')', ']']) →
        Literal.read? (v.sql.toList ++ t) = some (v.signed, t)) ∧
      (∀ v w : Value, v.IsLiteral → w.IsLiteral → (v.sql = w.sql ↔ v.signed = w.signed)) ∧
      ∀ vs : List Value, (∀ v ∈ vs, v.IsLiteral) →
        Literal.readTuple? (Tuple.sql ⟨vs⟩) = some (vs.map Value.signed) := by
  refine ⟨?_, ?_, ?_⟩
  · intro v hv t ht
    exact hv.read?_append ht
  · intro v w hv hw
    exact hv.sql_eq_iff hw
  · intro vs hvs
    exact Literal.readTuple?_sql fun v hv => (hvs v hv).written

/-- Quotes, backslashes, brackets and NUL in the text of a nested list end neither text nor list. -/
theorem Value.read?_sql_nested :
    Literal.read? ((Value.array [.uint 7, .array [.string "it's \\0], [\x00"], .null]).sql.toList ++
        ", 1)".toList) =
      some (.array [.int 7, .array [.string "it's \\0], [\x00"], .null], ", 1)".toList) := by
  refine Value.read?_sql.1 (.array [.uint 7, .array [.string "it's \\0], [\x00"], .null]) ?_
    ", 1)".toList (by simp)
  refine .array fun v hv => ?_
  rcases List.mem_cons.mp hv with rfl | hv
  · exact .uint 7
  rcases List.mem_cons.mp hv with rfl | hv
  · refine .array fun w hw => ?_
    rw [List.mem_singleton.mp hw]
    exact .string _
  · rw [List.mem_singleton.mp hv]
    exact .null

end FluentSql
