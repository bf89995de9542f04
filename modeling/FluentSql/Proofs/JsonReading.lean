import FluentSql.Json.Printer
import FluentSql.Json.Reader
import FluentSql.Proofs.LiteralReading
import Mathlib.Data.List.TakeDrop

/-! # JSON text is read back

Each part of a written value ends where its reader stops: a number in front of a comma or a closing
bracket (`Json.readNumber?_intText`), a text at the first quote that is not escaped
(`Json.readString?_flatMap`), and a list at its bracket if its items are read in front of a comma
and in front of that bracket (`Json.reads_joined`).  The length of the text is fuel enough
(`Json.Written`), so a value is read back from its text (`Json.parse?_text`). -/

namespace FluentSql

/-- A list of entries that is in order is the list of the map that it makes. -/
theorem KeyMap.entries_ofList {α : Type} {es : List (String × α)}
    (hsorted : es.Pairwise fun a b => a.1 < b.1) : (ofList es).entries = es := by
  refine entries_eq_of_lookup (ofList es).sorted hsorted fun k => ?_
  exact (get?_ofList es k).trans (lookup_reverse_of_sorted k hsorted)

/-! ### Digits -/

theorem eq_zero_of_head?_toDigits {n : Nat} (h : (Nat.toDigits 10 n).head? = some '0') :
    n = 0 := by
  induction n using Nat.strongRecOn with
  | ind n ih =>
      rw [Nat.toDigits_eq_if (by decide)] at h
      split at h
      · simpa using h
      · rename_i hn
        rw [List.head?_append_of_ne_nil _ Nat.toDigits_ne_nil] at h
        have hzero := ih (n / 10) (by omega) h
        omega

/-- Only zero is written with a leading zero, which then stands alone. -/
theorem toDigits_ne_leading_zero (n : Nat) (c : Char) (cs : List Char) :
    Nat.toDigits 10 n ≠ '0' :: c :: cs := by
  intro h
  have hzero := eq_zero_of_head?_toDigits (n := n) (by rw [h]; rfl)
  rw [hzero, Nat.toDigits_zero] at h
  cases h

theorem le_ofDigitChars (digits : List Char) (n : Nat) : n ≤ Nat.ofDigitChars 10 digits n := by
  induction digits generalizing n with
  | nil => simp
  | cons c cs ih =>
      rw [Nat.ofDigitChars_cons]
      exact Nat.le_trans (by omega) (ih _)

namespace Json

/-- The characters in front of which a value ends. -/
def closers : List Char := [',', ']', '\x7d']

theorem isDigit_of_mem_closers {c : Char} (h : c ∈ closers) : c.isDigit = false := by
  have hall : closers.all fun d => !d.isDigit := by decide
  simpa using List.all_eq_true.mp hall c h

/-- Digits whose number is in bounds are all taken. -/
theorem appendDigits_eq {digits : List Char} {n : Nat}
    (h : Nat.ofDigitChars 10 digits n < significandBound) :
    appendDigits n digits = (Nat.ofDigitChars 10 digits n, []) := by
  induction digits generalizing n with
  | nil => rfl
  | cons c cs ih =>
      rw [Nat.ofDigitChars_cons] at h ⊢
      have hnext := Nat.lt_of_le_of_lt (le_ofDigitChars cs _) h
      rw [appendDigits]
      exact (if_pos hnext).trans (ih h)

theorem spanDigits_append {digits rest : List Char} (hdigits : ∀ c ∈ digits, c.isDigit)
    (hrest : ∀ c ∈ rest.head?, c ∈ closers) : spanDigits (digits ++ rest) = (digits, rest) := by
  have hhead : ∀ c ∈ rest.head?, c.isDigit = false := fun c hc =>
    isDigit_of_mem_closers (hrest c hc)
  rw [spanDigits, List.span_eq_takeWhile_dropWhile, List.takeWhile_append_of_pos hdigits,
    List.dropWhile_append_of_pos hdigits]
  cases rest with
  | nil => simp
  | cons c rest => simp [hhead c rfl]

/-- Digits in front of the end of a value are a whole number. -/
theorem readAfterWhole?_toDigits (negative : Bool) {n : Nat} (hn : n < significandBound)
    {rest : List Char} (hrest : ∀ c ∈ rest.head?, c ∈ closers) :
    readAfterWhole? negative (Nat.toDigits 10 n) rest = some (wholeOf negative n, rest) := by
  have hdigits : appendDigits 0 (Nat.toDigits 10 n) = (n, []) := by
    have hvalue := Nat.ofDigitChars_ten_toDigits (n := n)
    rw [appendDigits_eq (by rwa [hvalue]), hvalue]
  rw [readAfterWhole?, hdigits]
  cases rest with
  | nil => rfl
  | cons c rest =>
      have hother : ∀ d, d ∉ closers → c ≠ d := by
        rintro d hd rfl
        exact hd (hrest c rfl)
      have hexponent : ¬ (c = 'e' ∨ c = 'E' ∨ ([] : List Char) ≠ []) := by
        simp [hother 'e' (by decide), hother 'E' (by decide)]
      dsimp only
      split
      · rename_i hpoint
        exact absurd (List.cons.inj hpoint).1 (hother '.' (by decide))
      · rename_i hcons
        obtain ⟨rfl, rfl⟩ := List.cons.inj hcons
        exact if_neg hexponent
      · rename_i hnil
        cases hnil

/-- The minus sign of a negative number. -/
def signText (negative : Bool) : List Char := if negative then ['-'] else []

theorem readNumber?_digits (negative : Bool) {n : Nat} (hn : n < significandBound)
    {rest : List Char} (hrest : ∀ c ∈ rest.head?, c ∈ closers) :
    readNumber? (signText negative ++ (Nat.toDigits 10 n ++ rest)) =
      some (wholeOf negative n, rest) := by
  have hdigit : ∀ c ∈ Nat.toDigits 10 n, c.isDigit := fun c hc =>
    Nat.isDigit_of_mem_toDigits (by decide) (by decide) hc
  have hspan := spanDigits_append hdigit hrest
  have hafter := readAfterWhole?_toDigits negative hn hrest
  have hzero := toDigits_ne_leading_zero n
  obtain ⟨d, ds, hds⟩ := List.exists_cons_of_ne_nil (Nat.toDigits_ne_nil (n := n) (b := 10))
  have hminus : d ≠ '-' := by
    rintro rfl
    have hd : Char.isDigit '-' := hdigit '-' (by rw [hds]; exact List.mem_cons_self)
    cases hd
  rw [hds] at hspan hafter hzero ⊢
  unfold readNumber?
  split
  rename_i negative' cs hsign
  -- digits do not begin with a minus sign, so the sign that is taken off is the one in front
  have hpair : (negative', cs) = (negative, d :: ds ++ rest) := by
    rw [← hsign]
    cases negative with
    | true => rfl
    | false => simp [signText, hminus]
  obtain ⟨rfl, rfl⟩ := Prod.mk.inj hpair
  rw [hspan]
  split
  · rename_i h
    cases h
  · rename_i h
    exact absurd (Prod.mk.inj h).1 (hzero _ _)
  · rename_i h
    obtain ⟨rfl, rfl⟩ := Prod.mk.inj h
    exact hafter

theorem wholeOf_neg {n : Nat} (hn : n + 1 ≤ Nat.pow 2 63) :
    wholeOf true (n + 1) = .int (Int.negSucc n) := by
  rw [wholeOf, if_pos rfl, if_pos ⟨Nat.succ_pos n, hn⟩]
  rfl

/-- A number of the signed or unsigned 64-bit integers is read back. -/
theorem readNumber?_intText {n : Int} (hn : -Nat.pow 2 63 ≤ n ∧ n < Nat.pow 2 64) {rest : List Char}
    (hrest : ∀ c ∈ rest.head?, c ∈ closers) :
    readNumber? ((toString n).toList ++ rest) = some (.int n, rest) := by
  have hbound : significandBound = 18446744073709551616 := rfl
  have hdigits (m : Nat) : (toString m).toList = Nat.toDigits 10 m := by
    rw [Nat.toString_eq_ofList_toDigits, String.toList_ofList]
  rw [Literal.two_pow_63, Literal.two_pow_64] at hn
  cases n with
  | ofNat m =>
      have hlt : (m : Int) < (18446744073709551616 : Nat) := hn.2
      have htext : (toString (Int.ofNat m)).toList = signText false ++ Nat.toDigits 10 m :=
        hdigits m
      rw [htext, List.append_assoc, readNumber?_digits false (by omega) hrest]
      rfl
  | negSucc m =>
      have hle : m + 1 ≤ Nat.pow 2 63 := by
        rw [Literal.two_pow_63]
        omega
      have htext : (toString (Int.negSucc m)).toList =
          signText true ++ Nat.toDigits 10 (m + 1) := by
        rw [toString_negSucc, String.toList_append, hdigits]
        rfl
      rw [htext, List.append_assoc, readNumber?_digits true (by omega) hrest,
        wholeOf_neg hle]

/-! ### Texts -/

theorem hexUnit?_hexDigit : ∀ n < 32,
    hexUnit? '0' '0' (Text.hexDigit (n / 16)) (Text.hexDigit n) = some n := by
  decide

/-- A character is read back from what is written for it. -/
theorem readString?_escapeChar (c : Char) (fuel : Nat) (ys : List Char) :
    readString? (fuel + 1) (escapeChar c ++ ys) =
      (readString? fuel ys).map fun r => (c :: r.1, r.2) := by
  have hsimple {d e : Char} (hd : d ≠ 'u') (he : simpleEscape? d = some e) :
      readString? (fuel + 1) ('\\' :: d :: ys) =
        (readString? fuel ys).map fun r => (e :: r.1, r.2) := by
    rw [readString?]
    · rw [he]
      cases readString? fuel ys <;> rfl
    · rintro a b c d rest h
      exact absurd h hd
  have hcontrol (hc : c.toNat < 0x20) :
      readString? (fuel + 1) ('\\' :: 'u' :: '0' :: '0' :: Text.hexDigit (c.toNat / 16) ::
          Text.hexDigit c.toNat :: ys) =
        (readString? fuel ys).map fun r => (c :: r.1, r.2) := by
    have hscalar : isScalarUnit c.toNat := by
      simp only [isScalarUnit, Bool.or_eq_true, decide_eq_true_eq]
      omega
    rw [readString?, hexUnit?_hexDigit _ hc]
    simp only [Option.bind_eq_bind, Option.bind_some, if_pos hscalar, Char.ofNat_toNat]
    cases readString? fuel ys <;> rfl
  have hplain (hquote : c ≠ '"') (hslash : c ≠ '\\') (hc : ¬ c.toNat < 0x20) :
      readString? (fuel + 1) (c :: ys) = (readString? fuel ys).map fun r => (c :: r.1, r.2) := by
    rw [readString?]
    · rw [if_neg hc]
      cases readString? fuel ys <;> rfl
    · exact fun h => absurd h hquote
    · exact fun _ _ _ _ _ h => absurd h hslash
    · exact fun _ _ h => absurd h hslash
  unfold escapeChar
  split_ifs with hquote hslash _ _ _ _ _ hc <;> subst_vars
  iterate 7 exact hsimple (by decide) rfl
  · exact hcontrol hc
  · exact hplain hquote hslash hc

theorem readString?_flatMap (cs ys : List Char) : ∀ {fuel}, cs.length < fuel →
    readString? fuel (cs.flatMap escapeChar ++ '"' :: ys) = some (cs, ys) := by
  induction cs with
  | nil =>
      intro fuel hfuel
      obtain ⟨fuel, rfl⟩ := Nat.exists_eq_succ_of_ne_zero (Nat.ne_of_gt hfuel)
      rfl
  | cons c cs ih =>
      intro fuel hfuel
      obtain ⟨fuel, rfl⟩ := Nat.exists_eq_succ_of_ne_zero (by omega : fuel ≠ 0)
      rw [List.flatMap_cons, List.append_assoc, Nat.succ_eq_add_one, readString?_escapeChar,
        ih (Nat.lt_of_succ_lt_succ hfuel)]
      rfl

theorem toList_stringText (s : String) :
    (stringText s).toList = '"' :: (s.toList.flatMap escapeChar ++ ['"']) := by
  simp [stringText]

theorem length_le_length_flatMap (cs : List Char) :
    cs.length ≤ (cs.flatMap escapeChar).length := by
  induction cs with
  | nil => simp
  | cons c cs ih =>
      have hc : 1 ≤ (escapeChar c).length := by
        unfold escapeChar
        split_ifs <;> simp
      rw [List.flatMap_cons, List.length_append, List.length_cons]
      omega

/-! ### Values -/

/-- The values that a text tells: whole numbers are those of the 64-bit integers, all others are
left out, and the members of objects are in order. -/
inductive IsWhole : Json → Prop
  | null : IsWhole .null
  | bool (b : Bool) : IsWhole (.bool b)
  | int {n : Int} (hn : -Nat.pow 2 63 ≤ n ∧ n < Nat.pow 2 64) : IsWhole (.int n)
  | string (s : String) : IsWhole (.string s)
  | array {items : List Json} (hitems : ∀ v ∈ items, IsWhole v) : IsWhole (.array items)
  | object {members : List (String × Json)} (hsorted : members.Pairwise fun a b => a.1 < b.1)
      (hmembers : ∀ m ∈ members, IsWhole m.2) : IsWhole (.object members)

/-- The characters with which no value begins: white space and what closes a list. -/
def notFirst : List Char := [' ', '\n', '\t', '\r', ']', '\x7d']

theorem skipSpace_cons {c : Char} (hc : c ∉ notFirst) (cs : List Char) :
    skipSpace (c :: cs) = c :: cs := by
  have hspace : ¬ (c = ' ' ∨ c = '\n' ∨ c = '\t' ∨ c = '\r') := by
    simp only [notFirst, List.mem_cons, not_or] at hc
    simp [hc]
  exact List.dropWhile_cons_of_neg (by simpa using hspace)

/-- The text of the value is read back in front of a comma or a closing bracket, and begins with
another character. -/
def Written (v : Json) : Prop :=
  (∃ c cs, v.text.toList = c :: cs ∧ c ∉ notFirst) ∧
    ∀ fuel, v.text.toList.length ≤ fuel →
      TextReader.Takes (readValue? fuel) closers v.text.toList v

theorem written_of_reads {v : Json} {c : Char} {cs : List Char} (htext : v.text.toList = c :: cs)
    (hc : c ∉ notFirst) (h : ∀ fuel rest, cs.length ≤ fuel → (∀ d ∈ rest.head?, d ∈ closers) →
      readValue? (fuel + 1) (c :: (cs ++ rest)) = some (v, rest)) : Written v := by
  refine ⟨⟨c, cs, htext, hc⟩, fun fuel hfuel rest hrest => ?_⟩
  rw [htext] at hfuel ⊢
  obtain ⟨fuel, rfl⟩ := Nat.exists_eq_add_of_le' (Nat.le_trans (Nat.le_add_left 1 _) hfuel)
  exact h fuel rest (Nat.le_of_succ_le_succ hfuel) hrest

theorem written_null : Written .null :=
  written_of_reads rfl (by decide) fun _ _ _ _ => rfl

theorem written_bool (b : Bool) : Written (.bool b) := by
  cases b with
  | true => exact written_of_reads rfl (by decide) fun _ _ _ _ => rfl
  | false => exact written_of_reads rfl (by decide) fun _ _ _ _ => rfl

theorem not_mem_notFirst_of_isNumeric {c : Char} (hc : isNumeric c) : c ∉ notFirst := by
  have hall : notFirst.all fun d => !isNumeric d := by decide
  intro hmem
  simpa [hc] using List.all_eq_true.mp hall c hmem

/-- A text that begins like a number is read as one. -/
theorem readValue?_of_isNumeric {c : Char} (hc : isNumeric c) (fuel : Nat) (cs : List Char) :
    readValue? (fuel + 1) (c :: cs) = readNumber? (c :: cs) := by
  rw [readValue?, skipSpace_cons (not_mem_notFirst_of_isNumeric hc)]
  split
  iterate 6
    · rename_i h
      exact absurd (List.cons.inj h).1 (ne_of_isNumeric hc (by decide))
  rfl

theorem written_int {n : Int} (hn : -Nat.pow 2 63 ≤ n ∧ n < Nat.pow 2 64) : Written (.int n) := by
  have hne : (toString n).toList ≠ [] := by
    cases n with
    | ofNat m => exact fun h => natText_ne_empty m (String.toList_eq_nil_iff.mp h)
    | negSucc m =>
        rw [toString_negSucc, String.toList_append]
        exact List.cons_ne_nil '-' _
  obtain ⟨c, cs, hcs⟩ := List.exists_cons_of_ne_nil hne
  have hc : isNumeric c := isNumeric_of_mem_intText (by rw [hcs]; exact List.mem_cons_self)
  have htext : (Json.int n).text.toList = c :: cs := by rw [text, hcs]
  refine written_of_reads htext (not_mem_notFirst_of_isNumeric hc) fun fuel rest _ hrest => ?_
  have hread := readNumber?_intText hn hrest
  rw [hcs] at hread
  rw [readValue?_of_isNumeric hc]
  exact hread

theorem written_string (s : String) : Written (.string s) := by
  have htext : (Json.string s).text.toList = '"' :: (s.toList.flatMap escapeChar ++ ['"']) := by
    rw [text, toList_stringText]
  refine written_of_reads htext (by decide) fun fuel rest hfuel _ => ?_
  have hlength := length_le_length_flatMap s.toList
  rw [List.length_append, List.length_singleton] at hfuel
  rw [readValue?, skipSpace_cons (by decide)]
  simp only [List.append_assoc, List.singleton_append]
  rw [readString?_flatMap s.toList rest (by omega)]
  simp

/-! ### Lists -/

theorem itemTexts_eq_map (items : List Json) : itemTexts items = items.map text := by
  induction items with
  | nil => rfl
  | cons v vs ih => rw [itemTexts, ih, List.map_cons]

/-- The characters of the items of an array, with commas between them. -/
def joined (texts : List (List Char)) : List Char := [','].intercalate texts

theorem joined_singleton (t : List Char) : joined [t] = t := by simp [joined]

theorem joined_cons_cons (t u : List Char) (ts : List (List Char)) :
    joined (t :: u :: ts) = t ++ ',' :: joined (u :: ts) := by
  simp [joined, List.intercalate_cons_cons]

/-- A list is read if each of its elements is read in front of a comma, and in front of the closing
bracket when it is the last one. -/
theorem reads_joined {α : Type} {read : Nat → TextReader (List α)} {text : α → List Char}
    {close : Char} : ∀ {as : List α}, as ≠ [] →
      (∀ a ∈ as, ∀ fuel cs, (text a).length ≤ fuel →
        read (fuel + 1) (text a ++ ',' :: cs) = (read fuel cs).map fun r => (a :: r.1, r.2)) →
      (∀ a ∈ as, ∀ fuel rest, (text a).length ≤ fuel →
        read (fuel + 1) (text a ++ close :: rest) = some ([a], rest)) →
      ∀ {fuel}, (joined (as.map text)).length < fuel → ∀ rest,
        read fuel (joined (as.map text) ++ close :: rest) = some (as, rest)
  | [], hne, _, _, _, _, _ => absurd rfl hne
  | _ :: _, _, _, _, 0, hfuel, _ => absurd hfuel (Nat.not_lt_zero _)
  | [a], _, _, hclose, fuel + 1, hfuel, rest => by
      rw [List.map_singleton, joined_singleton] at hfuel ⊢
      exact hclose a List.mem_cons_self fuel rest (Nat.le_of_lt_succ hfuel)
  | a :: b :: as, _, hcomma, hclose, fuel + 1, hfuel, rest => by
      have hmore := joined_cons_cons (text a) (text b) (as.map text)
      rw [List.map_cons, List.map_cons, hmore] at hfuel ⊢
      rw [List.length_append, List.length_cons] at hfuel
      have hlength : (joined ((b :: as).map text)).length < fuel := by
        rw [List.map_cons]
        omega
      have hrest := reads_joined (List.cons_ne_nil b as)
        (fun d hd => hcomma d (List.mem_cons_of_mem a hd))
        (fun d hd => hclose d (List.mem_cons_of_mem a hd)) hlength rest
      rw [List.map_cons] at hrest
      rw [List.append_assoc, List.cons_append, hcomma a List.mem_cons_self _ _ (by omega), hrest]
      rfl

theorem Written.takes {v : Json} (h : Written v) {fuel : Nat}
    (hfuel : v.text.toList.length ≤ fuel) {c : Char} (hc : c ∈ closers) (cs : List Char) :
    readValue? fuel (v.text.toList ++ c :: cs) = some (v, c :: cs) :=
  h.2 fuel hfuel (c :: cs) fun _ hd => Option.some.inj hd ▸ hc

/-- An item is read in front of another one. -/
theorem readItems?_comma {v : Json} (hv : Written v) {fuel : Nat}
    (hfuel : v.text.toList.length ≤ fuel) (cs : List Char) :
    readItems? (fuel + 1) (v.text.toList ++ ',' :: cs) =
      (readItems? fuel cs).map fun r => (v :: r.1, r.2) := by
  have hcomma : skipSpace (',' :: cs) = ',' :: cs := rfl
  rw [readItems?, hv.takes hfuel (by decide)]
  simp only [Option.bind_eq_bind, Option.bind_some, hcomma]
  cases readItems? fuel cs <;> rfl

/-- The last item is read in front of the closing bracket. -/
theorem readItems?_close {v : Json} (hv : Written v) {fuel : Nat}
    (hfuel : v.text.toList.length ≤ fuel) (rest : List Char) :
    readItems? (fuel + 1) (v.text.toList ++ ']' :: rest) = some ([v], rest) := by
  rw [readItems?, hv.takes hfuel (by decide)]
  rfl

/-- The characters of a member of an object. -/
def memberChars (m : String × Json) : List Char :=
  '"' :: (m.1.toList.flatMap escapeChar ++ '"' :: ':' :: m.2.text.toList)

theorem memberChars_append (m : String × Json) (cs : List Char) : memberChars m ++ cs =
    '"' :: (m.1.toList.flatMap escapeChar ++ '"' :: ':' :: (m.2.text.toList ++ cs)) := by
  simp [memberChars]

/-- The name and the value of a member are read. -/
theorem readMember {m : String × Json} (hm : Written m.2) {fuel : Nat}
    (hfuel : (memberChars m).length ≤ fuel) {c : Char} (hc : c ∈ closers) (cs : List Char) :
    readString? fuel (m.1.toList.flatMap escapeChar ++ '"' :: ':' :: (m.2.text.toList ++ c :: cs)) =
        some (m.1.toList, ':' :: (m.2.text.toList ++ c :: cs)) ∧
      readValue? fuel (m.2.text.toList ++ c :: cs) = some (m.2, c :: cs) := by
  have hlength := length_le_length_flatMap m.1.toList
  simp only [memberChars, List.length_cons, List.length_append] at hfuel
  exact ⟨readString?_flatMap _ _ (by omega), hm.takes (by omega) hc cs⟩

theorem readMembers?_comma {m : String × Json} (hm : Written m.2) {fuel : Nat}
    (hfuel : (memberChars m).length ≤ fuel) (cs : List Char) :
    readMembers? (fuel + 1) (memberChars m ++ ',' :: cs) =
      (readMembers? fuel cs).map fun r => (m :: r.1, r.2) := by
  obtain ⟨hname, hvalue⟩ := readMember hm hfuel (c := ',') (by decide) cs
  have hcolon : skipSpace (':' :: (m.2.text.toList ++ ',' :: cs)) =
      ':' :: (m.2.text.toList ++ ',' :: cs) := rfl
  have hcomma : skipSpace (',' :: cs) = ',' :: cs := rfl
  rw [memberChars_append, readMembers?, skipSpace_cons (by decide)]
  simp only [Option.bind_eq_bind, Option.bind_some, hname, hcolon, hvalue, hcomma,
    String.ofList_toList]
  cases readMembers? fuel cs <;> rfl

theorem readMembers?_close {m : String × Json} (hm : Written m.2) {fuel : Nat}
    (hfuel : (memberChars m).length ≤ fuel) (rest : List Char) :
    readMembers? (fuel + 1) (memberChars m ++ '\x7d' :: rest) = some ([m], rest) := by
  obtain ⟨hname, hvalue⟩ := readMember hm hfuel (c := '\x7d') (by decide) rest
  have hcolon : skipSpace (':' :: (m.2.text.toList ++ '\x7d' :: rest)) =
      ':' :: (m.2.text.toList ++ '\x7d' :: rest) := rfl
  have hclose : skipSpace ('\x7d' :: rest) = '\x7d' :: rest := rfl
  rw [memberChars_append, readMembers?, skipSpace_cons (by decide)]
  simp only [Option.bind_eq_bind, Option.bind_some, hname, hcolon, hvalue, hclose,
    String.ofList_toList]

theorem memberTexts_eq_map (members : List (String × Json)) :
    (memberTexts members).map String.toList = members.map memberChars := by
  induction members with
  | nil => rfl
  | cons m ms ih =>
      obtain ⟨name, v⟩ := m
      rw [memberTexts, List.map_cons, ih, List.map_cons]
      simp [memberChars, toList_stringText]

theorem toList_text_array (items : List Json) : (Json.array items).text.toList =
    '[' :: (joined (items.map fun v => v.text.toList) ++ [']']) := by
  rw [text, itemTexts_eq_map, String.toList_append, String.toList_append,
    String.toList_intercalate, List.map_map]
  rfl

theorem toList_text_object (members : List (String × Json)) : (Json.object members).text.toList =
    '\x7b' :: (joined (members.map memberChars) ++ ['\x7d']) := by
  rw [text, String.toList_append, String.toList_append, String.toList_intercalate,
    memberTexts_eq_map]
  rfl

theorem written_array {items : List Json} (hitems : ∀ v ∈ items, Written v) :
    Written (.array items) := by
  refine written_of_reads (toList_text_array items) (by decide) fun fuel rest hfuel _ => ?_
  by_cases hne : items = []
  · subst hne
    rfl
  · rw [List.length_append, List.length_singleton] at hfuel
    have hread := reads_joined hne
      (fun v hv fuel cs hlength => readItems?_comma (hitems v hv) hlength cs)
      (fun v hv fuel rest hlength => readItems?_close (hitems v hv) hlength rest) hfuel rest
    obtain ⟨v, vs, rfl⟩ := List.exists_cons_of_ne_nil hne
    obtain ⟨⟨c, cs, hv, hc⟩, -⟩ := hitems v List.mem_cons_self
    obtain ⟨more, hmore⟩ := exists_intercalate_eq_cons [','] c cs (vs.map fun v => v.text.toList)
    rw [List.map_cons, hv, joined, hmore] at hread ⊢
    have hclose : c ≠ ']' := by
      rintro rfl
      exact hc (by decide)
    have hskip : skipSpace (c :: more ++ ']' :: rest) = c :: more ++ ']' :: rest :=
      skipSpace_cons hc _
    rw [List.append_assoc, List.singleton_append, readValue?, skipSpace_cons (by decide)]
    simp only [hskip, hread]
    -- the first item is no closing bracket
    split
    · rename_i h
      exact absurd (List.cons.inj h).1 hclose
    · rfl

theorem ofMembers_of_sorted {members : List (String × Json)}
    (hsorted : members.Pairwise fun a b => a.1 < b.1) : ofMembers members = .object members := by
  rw [ofMembers, KeyMap.entries_ofList hsorted]

theorem written_object {members : List (String × Json)}
    (hsorted : members.Pairwise fun a b => a.1 < b.1) (hmembers : ∀ m ∈ members, Written m.2) :
    Written (.object members) := by
  refine written_of_reads (toList_text_object members) (by decide) fun fuel rest hfuel _ => ?_
  by_cases hne : members = []
  · subst hne
    rfl
  · rw [List.length_append, List.length_singleton] at hfuel
    have hread := reads_joined hne
      (fun m hm fuel cs hlength => readMembers?_comma (hmembers m hm) hlength cs)
      (fun m hm fuel rest hlength => readMembers?_close (hmembers m hm) hlength rest) hfuel rest
    obtain ⟨m, ms, rfl⟩ := List.exists_cons_of_ne_nil hne
    obtain ⟨more, hmore⟩ := exists_intercalate_eq_cons [','] '"'
      (m.1.toList.flatMap escapeChar ++ '"' :: ':' :: m.2.text.toList) (ms.map memberChars)
    have hjoined : joined ((m :: ms).map memberChars) = '"' :: more := hmore
    rw [hjoined] at hread ⊢
    have hskip : skipSpace ('"' :: more ++ '\x7d' :: rest) = '"' :: more ++ '\x7d' :: rest := rfl
    rw [List.append_assoc, List.singleton_append, readValue?, skipSpace_cons (by decide)]
    simp only [hskip, hread]
    simp [ofMembers_of_sorted hsorted]

theorem written_of_isWhole {v : Json} (h : v.IsWhole) : Written v := by
  induction h with
  | null => exact written_null
  | bool b => exact written_bool b
  | int hn => exact written_int hn
  | string s => exact written_string s
  | array _ ih => exact written_array ih
  | object hsorted _ ih => exact written_object hsorted ih

/-- **JSON text tells its value.** -/
theorem parse?_text {v : Json} (h : v.IsWhole) : parse? v.text = some v := by
  have hread := (written_of_isWhole h).2 (v.text.toList.length + 1) (Nat.le_succ _) [] (by simp)
  rw [List.append_nil] at hread
  rw [parse?, hread]
  rfl

end Json

end FluentSql
