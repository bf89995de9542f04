import FluentSql.Proofs.Number
import Mathlib.Data.List.DropRight

/-! # Tokens of SQL text

A text is read as string literals, quoted names and single other characters.  In a literal a
backslash takes the next character out of its role, and a backslash with a zero is NUL; in a name
a doubled backtick is one backtick.  The reader goes over the text once, character by character
(`Token.step`), and `Token.read?` fails on a text that ends within a literal or a name.

Reading is compositional: the tokens of a text followed by another one are the tokens of both,
unless a name is followed by a backtick (`Token.readFrom_append`).  What quoting writes is read
back whatever stands in it (`Token.readFrom_quote`, `Token.readFrom_quoteName`), and trimming a
text removes the blank tokens at its ends and no other (`Token.readFrom_trimChars`). -/

namespace FluentSql

/-- A token of SQL text; literals and names are given by what they stand for. -/
inductive Token where
  | string (content : String)
  | name (content : String)
  | char (c : Char)
deriving DecidableEq, Repr

namespace Token

/-- Where a reader of tokens stands, with what it has read of a quoted token. -/
inductive Mode where
  | between
  | inString (read : List Char)
  /-- Behind a backslash in a literal. -/
  | escaped (read : List Char)
  | inName (read : List Char)
  /-- Behind a backtick in a name, which ends the name unless another one follows. -/
  | closing (read : List Char)

/-- What a character stands for behind a backslash. -/
def unescape (c : Char) : Char := if c = '0' then '\x00' else c

/-- A character outside literals and names: the tokens that are complete with it, and where the
reader stands behind it. -/
def enter (c : Char) : List Token × Mode :=
  if c = '\'' then ([], .inString [])
  else if c = Identifier.backtick then ([], .inName [])
  else ([char c], .between)

/-- One character anywhere. -/
def step : Mode → Char → List Token × Mode
  | .between, c => enter c
  | .inString read, c =>
      if c = '\'' then ([string (String.ofList read)], .between)
      else if c = '\\' then ([], .escaped read)
      else ([], .inString (read ++ [c]))
  | .escaped read, c => ([], .inString (read ++ [unescape c]))
  | .inName read, c =>
      if c = Identifier.backtick then ([], .closing read) else ([], .inName (read ++ [c]))
  | .closing read, c =>
      if c = Identifier.backtick then ([], .inName (read ++ [c]))
      else (name (String.ofList read) :: (enter c).1, (enter c).2)

/-- The tokens that the end of the text completes, if it may end here. -/
def finish : Mode → Option (List Token)
  | .between => some []
  | .closing read => some [name (String.ofList read)]
  | _ => none

/-- The tokens of a text, where reading starts in a given mode. -/
def readFrom : Mode → List Char → Option (List Token)
  | m, [] => finish m
  | m, c :: cs => (readFrom (step m c).2 cs).map ((step m c).1 ++ ·)

/-- The tokens of a text. -/
def read? (s : String) : Option (List Token) := readFrom .between s.toList

/-! ### Reading one text after another -/

/-- A plain character is a token of its own. -/
def isPlain (c : Char) : Bool := c ≠ '\'' && c ≠ Identifier.backtick

theorem enter_of_isPlain {c : Char} (h : isPlain c) : enter c = ([char c], .between) := by
  simp only [isPlain, Bool.and_eq_true, decide_eq_true_eq] at h
  simp [enter, h.1, h.2]

theorem isPlain_of_isNumeric {c : Char} (hc : isNumeric c) : isPlain c := by
  simp [isPlain, Identifier.backtick, ne_of_isNumeric hc, isNumeric]

/-- A quote begins a token without completing one. -/
theorem enter_of_not_isPlain {c : Char} (h : ¬ isPlain c) :
    (enter c).1 = [] ∧ (enter c).2 ≠ .between := by
  unfold enter
  split
  · simp
  · split
    · simp
    · simp_all [isPlain]

theorem readFrom_closing {read : List Char} {cs : List Char}
    (h : cs.head? ≠ some Identifier.backtick) :
    readFrom (.closing read) cs =
      (readFrom .between cs).map (name (String.ofList read) :: ·) := by
  cases cs with
  | nil => rfl
  | cons c cs =>
      have hc : c ≠ Identifier.backtick := fun e => h (by rw [e]; rfl)
      have hstep : step (.closing read) c =
          (name (String.ofList read) :: (enter c).1, (enter c).2) := if_neg hc
      rw [readFrom, readFrom, hstep, Option.map_map]
      rfl

theorem finish_eq_some {m : Mode} {ts : List Token} (h : finish m = some ts) :
    (m = .between ∧ ts = []) ∨ ∃ read, m = .closing read ∧ ts = [name (String.ofList read)] := by
  cases m <;> simp_all [finish]

/-- The tokens of two texts in sequence, where a name at the end of the first is not continued. -/
theorem readFrom_append {xs ys : List Char} (hys : ys.head? ≠ some Identifier.backtick) :
    ∀ {m : Mode} {ts : List Token}, readFrom m xs = some ts →
      readFrom m (xs ++ ys) = (readFrom .between ys).map (ts ++ ·) := by
  induction xs with
  | nil =>
      intro m ts h
      rcases finish_eq_some h with ⟨rfl, rfl⟩ | ⟨read, rfl, rfl⟩
      · simp
      · rw [List.nil_append, readFrom_closing hys]
        rfl
  | cons c xs ih =>
      intro m ts h
      rw [readFrom] at h
      obtain ⟨us, hus, rfl⟩ := Option.map_eq_some_iff.mp h
      rw [List.cons_append, readFrom, ih hus, Option.map_map]
      congr 1
      funext vs
      simp

/-- Plain characters are read one by one, whatever follows. -/
theorem readFrom_plain_append {xs : List Char} (hxs : ∀ c ∈ xs, isPlain c) (ys : List Char) :
    readFrom .between (xs ++ ys) = (readFrom .between ys).map (xs.map char ++ ·) := by
  induction xs with
  | nil => simp
  | cons c xs ih =>
      have hc := enter_of_isPlain (hxs c List.mem_cons_self)
      rw [List.cons_append, readFrom, step, hc, ih fun d hd => hxs d (List.mem_cons_of_mem c hd),
        Option.map_map]
      rfl

theorem readFrom_plain {xs : List Char} (hxs : ∀ c ∈ xs, isPlain c) :
    readFrom .between xs = some (xs.map char) := by
  have h := readFrom_plain_append hxs []
  simpa [readFrom, finish] using h

/-- A text of plain characters as tokens. -/
def ofText (s : String) : List Token := s.toList.map char

theorem read?_append {s t : String} {ts : List Token} (hs : read? s = some ts)
    (ht : t.toList.head? ≠ some Identifier.backtick) :
    read? (s ++ t) = (read? t).map (ts ++ ·) := by
  rw [read?, String.toList_append]
  exact readFrom_append ht hs

theorem read?_text_append {s : String} (hs : s.toList.all isPlain) (t : String) :
    read? (s ++ t) = (read? t).map (ofText s ++ ·) := by
  rw [read?, String.toList_append]
  exact readFrom_plain_append (List.all_eq_true.mp hs) t.toList

theorem read?_text {s : String} (hs : s.toList.all isPlain) : read? s = some (ofText s) :=
  readFrom_plain (List.all_eq_true.mp hs)

theorem head?_append_ne_backtick {k : String} (hk : k.toList.all isPlain) (hne : k ≠ "")
    (s : String) : (k ++ s).toList.head? ≠ some Identifier.backtick := by
  have hchars : k.toList ≠ [] := fun h => hne (String.toList_eq_nil_iff.mp h)
  obtain ⟨c, cs, hc⟩ := List.exists_cons_of_ne_nil hchars
  have hplain : isPlain c := List.all_eq_true.mp hk c (by rw [hc]; exact List.mem_cons_self)
  rw [String.toList_append, hc]
  intro h
  obtain rfl := Option.some.inj h
  exact absurd hplain (by decide)

/-- Texts with a text of plain characters between them. -/
theorem read?_glue {k s t : String} {ts us : List Token} (hk : k.toList.all isPlain) (hne : k ≠ "")
    (hs : read? s = some ts) (ht : read? t = some us) :
    read? (s ++ k ++ t) = some (ts ++ (ofText k ++ us)) := by
  rw [String.append_assoc, read?_append hs (head?_append_ne_backtick hk hne t),
    read?_text_append hk, ht]
  rfl

/-- A text in front of plain characters. -/
theorem read?_append_text {k s : String} {ts : List Token} (hk : k.toList.all isPlain)
    (hne : k ≠ "") (hs : read? s = some ts) : read? (s ++ k) = some (ts ++ ofText k) := by
  have h := head?_append_ne_backtick hk hne ""
  rw [String.append_empty] at h
  rw [read?_append hs h, read?_text hk]
  rfl

/-! ### Literals and names -/

theorem readFrom_escapeChar (c : Char) (read ys : List Char) :
    readFrom (.inString read) (Text.escapeChar c ++ ys) =
      readFrom (.inString (read ++ [c])) ys := by
  unfold Text.escapeChar
  split
  · rename_i h
    have hc : unescape c = c := by
      rcases h with rfl | rfl | rfl <;> rfl
    simp [readFrom, step, hc]
  · rename_i h
    split
    · rename_i h0
      simp [readFrom, step, unescape, h0]
    · simp only [not_or] at h
      simp [readFrom, step, h.1, h.2.2]

theorem readFrom_escape (cs ys : List Char) :
    ∀ read : List Char, readFrom (.inString read) (Text.escape cs ++ '\'' :: ys) =
      (readFrom .between ys).map (string (String.ofList (read ++ cs)) :: ·) := by
  induction cs with
  | nil => intro read; simp [readFrom, step]
  | cons c cs ih =>
      intro read
      rw [Text.escape_cons, List.append_assoc, readFrom_escapeChar, ih]
      simp

/-- A literal is read as what it was written for, whatever follows. -/
theorem readFrom_quote (s : String) (ys : List Char) :
    readFrom .between ((Text.quote s).toList ++ ys) =
      (readFrom .between ys).map (string s :: ·) := by
  have h := readFrom_escape s.toList ys []
  rw [Text.toList_quote, List.cons_append, List.append_assoc]
  rw [List.nil_append, String.ofList_toList] at h
  simpa [readFrom, step, enter] using h

theorem readFrom_doubleBackticks (cs ys : List Char) :
    ∀ read : List Char,
      readFrom (.inName read) (Identifier.doubleBackticks cs ++ Identifier.backtick :: ys) =
        readFrom (.closing (read ++ cs)) ys := by
  induction cs with
  | nil => intro read; simp [Identifier.doubleBackticks_nil, readFrom, step]
  | cons c cs ih =>
      intro read
      by_cases hc : c = Identifier.backtick
      · rw [hc, Identifier.doubleBackticks_cons_backtick]
        simp [readFrom, step, ih]
      · rw [Identifier.doubleBackticks_cons_of_ne hc]
        simp [readFrom, step, hc, ih]

/-- The token of a name as it stands in SQL: a bare `*` is a character. -/
def ofName (cs : List Char) : Token := if cs = ['*'] then char '*' else name (String.ofList cs)

/-- A quoted name is read as what it was written for, unless a backtick follows. -/
theorem readFrom_quoteName (cs : List Char) {ys : List Char}
    (hys : ys.head? ≠ some Identifier.backtick) :
    readFrom .between (Identifier.quoteName cs ++ ys) =
      (readFrom .between ys).map (ofName cs :: ·) := by
  unfold Identifier.quoteName ofName
  split
  · rename_i h
    have hplain : ∀ c ∈ ['*'], isPlain c := List.forall_mem_singleton.mpr rfl
    rw [h]
    exact readFrom_plain_append hplain ys
  · have h := readFrom_doubleBackticks cs ys []
    rw [readFrom_closing hys, List.nil_append] at h
    rw [List.cons_append, List.append_assoc, readFrom, step, enter]
    simpa [Identifier.backtick] using h

theorem read?_quote (s : String) : read? (Text.quote s) = some [string s] := by
  have h := readFrom_quote s []
  rwa [List.append_nil] at h

theorem read?_quoteName (cs : List Char) :
    read? (String.ofList (Identifier.quoteName cs)) = some [ofName cs] := by
  have hend : [].head? ≠ some Identifier.backtick := nofun
  have h := readFrom_quoteName cs hend
  rw [List.append_nil] at h
  rw [read?, String.toList_ofList]
  exact h

/-! ### Trimming -/

/-- Whether a token is a blank outside literals and names. -/
def isBlank : Token → Bool
  | char c => Text.isBlank c
  | _ => false

/-- The tokens without blanks at either end. -/
def trim (ts : List Token) : List Token := (ts.dropWhile isBlank).rdropWhile isBlank

theorem isPlain_of_isBlank {c : Char} (h : Text.isBlank c) : isPlain c := by
  have h1 : c ≠ '\'' := by
    rintro rfl
    exact absurd h (by decide)
  have h2 : c ≠ Identifier.backtick := by
    rintro rfl
    exact absurd h (by decide)
  simp [isPlain, h1, h2]

/-- A quoted token that goes on is not left. -/
theorem step_quoted {m m' : Mode} {c : Char} (hm : m ≠ .between) (h : step m c = ([], m')) :
    m' ≠ .between := by
  cases m with
  | between => exact absurd rfl hm
  | _ => simp only [step] at h; grind

/-- A token completed within quotes is a quoted one. -/
theorem step_ne_char {m m' : Mode} {c : Char} {t : Token} {ts : List Token} (hm : m ≠ .between)
    (h : step m c = (t :: ts, m')) (d : Char) : t ≠ char d := by
  cases m with
  | between => exact absurd rfl hm
  | _ => simp only [step] at h; grind

theorem isBlank_of_ne_char {t : Token} (h : ∀ d, t ≠ char d) : isBlank t = false := by
  cases t with
  | char c => exact absurd rfl (h c)
  | _ => rfl

/-- Within a literal or a name the next token is that literal or name. -/
theorem readFrom_quoted_head {cs : List Char} : ∀ {m : Mode} {ts : List Token}, m ≠ .between →
    readFrom m cs = some ts → ∃ t us, ts = t :: us ∧ ∀ d, t ≠ char d := by
  induction cs with
  | nil =>
      intro m ts hm h
      rcases finish_eq_some h with ⟨rfl, -⟩ | ⟨read, -, rfl⟩
      · exact absurd rfl hm
      · exact ⟨_, _, rfl, fun d => Token.noConfusion⟩
  | cons c cs ih =>
      intro m ts hm h
      rw [readFrom] at h
      obtain ⟨us, hus, rfl⟩ := Option.map_eq_some_iff.mp h
      cases hstep : step m c with
      | mk done m' =>
          rw [hstep] at hus
          cases done with
          | nil => exact ih (step_quoted hm hstep) hus
          | cons t done => exact ⟨t, done ++ us, rfl, step_ne_char hm hstep⟩

theorem readFrom_dropWhile_isBlank {cs : List Char} : ∀ {ts : List Token},
    readFrom .between cs = some ts →
      readFrom .between (cs.dropWhile Text.isBlank) = some (ts.dropWhile isBlank) := by
  induction cs with
  | nil =>
      intro ts h
      obtain rfl : [] = ts := by simpa [readFrom, finish] using h
      rfl
  | cons c cs ih =>
      intro ts h
      by_cases hc : Text.isBlank c
      · rw [readFrom, step, enter_of_isPlain (isPlain_of_isBlank hc)] at h
        obtain ⟨us, hus, rfl⟩ := Option.map_eq_some_iff.mp h
        rw [List.dropWhile_cons_of_pos hc, ih hus, List.singleton_append,
          List.dropWhile_cons_of_pos (by exact hc)]
      · rw [List.dropWhile_cons_of_neg hc, h]
        rw [readFrom, step] at h
        obtain ⟨us, hus, rfl⟩ := Option.map_eq_some_iff.mp h
        by_cases hplain : isPlain c
        · rw [enter_of_isPlain hplain, List.singleton_append,
            List.dropWhile_cons_of_neg (by exact hc)]
        · -- a quote opens a token that is no blank
          have henter := enter_of_not_isPlain hplain
          obtain ⟨t, vs, rfl, ht⟩ := readFrom_quoted_head henter.2 hus
          rw [henter.1, List.nil_append,
            List.dropWhile_cons_of_neg (by simp [isBlank_of_ne_char ht])]

/-- Reading completes a token unless there is nothing to read. -/
theorem readFrom_eq_nil {cs : List Char} {m : Mode} (h : readFrom m cs = some []) :
    m = .between ∧ cs = [] := by
  cases m with
  | between =>
      cases cs with
      | nil => exact ⟨rfl, rfl⟩
      | cons c cs =>
          rw [readFrom, step] at h
          obtain ⟨us, hus, hnil⟩ := Option.map_eq_some_iff.mp h
          obtain ⟨henter, rfl⟩ := List.append_eq_nil_iff.mp hnil
          by_cases hplain : isPlain c
          · rw [enter_of_isPlain hplain] at henter
            cases henter
          · obtain ⟨t, vs, hcons, -⟩ := readFrom_quoted_head (enter_of_not_isPlain hplain).2 hus
            cases hcons
  | _ =>
      obtain ⟨t, us, hts, -⟩ := readFrom_quoted_head (by simp) h
      cases hts

theorem rdropWhile_append (p : Token → Bool) (ts us : List Token) :
    (ts ++ us).rdropWhile p =
      if us.rdropWhile p = [] then ts.rdropWhile p else ts ++ us.rdropWhile p := by
  simp only [List.rdropWhile, List.reverse_append, List.dropWhile_append, List.reverse_eq_nil_iff,
    List.isEmpty_iff]
  split <;> simp

theorem rdropWhile_of_finish {m : Mode} {ts : List Token} (h : finish m = some ts) :
    ts.rdropWhile isBlank = ts := by
  rcases finish_eq_some h with ⟨-, rfl⟩ | ⟨read, -, rfl⟩ <;> rfl

/-- A text that may end behind a blank may end before it. -/
theorem step_isBlank {m : Mode} {c : Char} {us : List Token} (hc : Text.isBlank c)
    (h : finish (step m c).2 = some us) :
    ∃ vs, finish m = some vs ∧ (step m c).1 = vs ++ [char c] ∧ us = [] := by
  have hplain := isPlain_of_isBlank hc
  have henter := enter_of_isPlain hplain
  simp only [isPlain, Bool.and_eq_true, decide_eq_true_eq] at hplain
  cases m with
  | between =>
      rw [step, henter] at h ⊢
      exact ⟨[], rfl, rfl, (Option.some.inj h).symm⟩
  | closing read =>
      rw [step, if_neg hplain.2, henter] at h ⊢
      exact ⟨_, rfl, rfl, (Option.some.inj h).symm⟩
  | inName read =>
      rw [step, if_neg hplain.2] at h
      cases h
  | escaped read => cases h
  | inString read =>
      rw [step, if_neg hplain.1] at h
      split at h <;> cases h

/-- A token that another character completes is no blank, nor is that character. -/
theorem step_not_isBlank {m : Mode} {c : Char} (hc : ¬ Text.isBlank c)
    (h : (step m c).2 = .between) :
    (step m c).1.rdropWhile isBlank = (step m c).1 := by
  have henter (ts : List Token) (hm : (enter c).2 = .between) :
      (ts ++ (enter c).1).rdropWhile isBlank = ts ++ (enter c).1 := by
    by_cases hplain : isPlain c
    · rw [enter_of_isPlain hplain]
      exact List.rdropWhile_concat_neg isBlank ts (char c) hc
    · exact absurd hm (enter_of_not_isPlain hplain).2
  cases m with
  | between => exact henter [] h
  | closing read =>
      rw [step] at h ⊢
      split at h
      · cases h
      · rename_i hb
        rw [if_neg hb]
        exact henter [name (String.ofList read)] h
  | inString read =>
      rw [step] at h ⊢
      split at h
      · rename_i hq
        rw [if_pos hq]
        rfl
      · split at h <;> cases h
  | inName read =>
      rw [step] at h
      split at h <;> cases h
  | escaped read => cases h

/-- Blanks at the end of a text are blanks at the end of its tokens. -/
theorem readFrom_trimEnd {cs : List Char} : ∀ {m : Mode} {ts : List Token},
    readFrom m cs = some ts →
      readFrom m (Text.trimEnd cs) = some (ts.rdropWhile isBlank) := by
  induction cs with
  | nil =>
      intro m ts h
      rw [rdropWhile_of_finish h]
      exact h
  | cons c cs ih =>
      intro m ts h
      rw [readFrom] at h
      obtain ⟨us, hus, rfl⟩ := Option.map_eq_some_iff.mp h
      have hrest := ih hus
      rw [Text.trimEnd_cons, rdropWhile_append]
      by_cases hcs : Text.trimEnd cs = []
      · rw [hcs] at hrest
        rw [if_pos hcs]
        by_cases hc : Text.isBlank c
        · obtain ⟨vs, hvs, hstep, hnil⟩ := step_isBlank hc hrest
          rw [if_pos hc, if_pos hnil, hstep, List.rdropWhile_concat_pos isBlank vs (char c) hc,
            rdropWhile_of_finish hvs]
          exact hvs
        · rw [if_neg hc, readFrom, hrest]
          split
          · rename_i hnil
            rw [hnil] at hrest ⊢
            rw [step_not_isBlank hc (readFrom_eq_nil hrest).1]
            simp
          · rfl
      · rw [if_neg hcs, readFrom, hrest, if_neg fun hnil => hcs ?_]
        · rfl
        · rw [hnil] at hrest
          exact (readFrom_eq_nil hrest).2

/-- Trimming a text trims its tokens. -/
theorem readFrom_trimChars {cs : List Char} {ts : List Token} (h : readFrom .between cs = some ts) :
    readFrom .between (Text.trimChars cs) = some (trim ts) :=
  readFrom_trimEnd (readFrom_dropWhile_isBlank h)

/-- Only the empty text has no tokens. -/
theorem read?_eq_nil {s : String} (h : read? s = some []) : s = "" :=
  String.toList_eq_nil_iff.mp (readFrom_eq_nil h).2

/-- Only the text of one plain character has that character as its one token. -/
theorem read?_eq_char {s : String} {d : Char} (h : read? s = some [char d]) :
    s.toList = [d] := by
  rw [read?] at h
  cases hs : s.toList with
  | nil =>
      rw [hs] at h
      cases h
  | cons c cs =>
      rw [hs, readFrom, step] at h
      obtain ⟨us, hus, hcons⟩ := Option.map_eq_some_iff.mp h
      by_cases hplain : isPlain c
      · rw [enter_of_isPlain hplain] at hcons hus
        obtain ⟨hc, rfl⟩ := List.cons.inj hcons
        rw [Token.char.inj hc, (readFrom_eq_nil hus).2]
      · obtain ⟨hnil, hm⟩ := enter_of_not_isPlain hplain
        obtain ⟨t, vs, rfl, ht⟩ := readFrom_quoted_head hm hus
        rw [hnil] at hcons
        exact absurd (List.cons.inj hcons).1 (ht d)

theorem read?_trim {s : String} {ts : List Token} (h : read? s = some ts) :
    read? (Text.trim s) = some (trim ts) := by
  rw [read?, Text.toList_trim]
  exact readFrom_trimChars h

end Token

end FluentSql
