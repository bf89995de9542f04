import FluentSql.Proofs.Lexeme

/-! # Outlines of SQL text

The outline of a text is what can be seen of it outside brackets: the words that head clauses, from
left to right.  A text has an outline only if its round and square brackets match.  The brackets
that are still to close are kept on a stack (`Lexeme.nest`), and `Lexeme.scan` goes over the
lexemes once.  The stack holds what was opened and not closed (`Lexeme.scan_count`), so the brackets
of a text with an outline are balanced (`Lexeme.balanced_of_scan`).  What stands between matching
brackets leaves the stack as it was and is not seen (`Lexeme.scan_frame`). -/

namespace FluentSql

/-- The words that clauses of a SELECT statement begin with. -/
def headWords : List String :=
  ["SELECT", "FROM", "SAMPLE", "LEFT", "ARRAY", "JOIN", "PREWHERE", "WHERE", "GROUP", "HAVING",
   "ORDER", "LIMIT", "BY", "UNION", "ALL", "FORMAT"]

/-- Whether a word is one of them. -/
def isHeadWord (w : String) : Bool := headWords.contains w

namespace Lexeme

/-- The brackets still to close behind a lexeme, the innermost first.  A closing bracket closes the
last one that was opened. -/
def nest (pending : List Char) : Lexeme → Option (List Char)
  | symbol c =>
      if c = '(' then some (')' :: pending)
      else if c = '[' then some (']' :: pending)
      else if c = ')' ∨ c = ']' then
        if pending.head? = some c then some pending.tail else none
      else some pending
  | _ => some pending

/-- What is seen of a lexeme outside brackets: a head word. -/
def seen (pending : List Char) : Lexeme → List String
  | word w => if pending = [] ∧ isHeadWord w then [w] else []
  | _ => []

/-- The brackets still to close behind lexemes, and what is seen of them. -/
def scan (pending : List Char) : List Lexeme → Option (List Char × List String)
  | [] => some (pending, [])
  | l :: ls =>
      (nest pending l).bind fun pending' =>
        (scan pending' ls).map fun r => (r.1, seen pending l ++ r.2)

/-- The head words outside brackets, from left to right, if all brackets match. -/
def outline? (ls : List Lexeme) : Option (List String) :=
  (scan [] ls).bind fun r => if r.1 = [] then some r.2 else none

/-- Round and square brackets match: up to any point no more of them are closed than were opened,
and in the end as many. -/
def Balanced (ls : List Lexeme) : Prop :=
  ∀ b ∈ [('(', ')'), ('[', ']')],
    (∀ ms, ms <+: ls → ms.count (symbol b.2) ≤ ms.count (symbol b.1)) ∧
      ls.count (symbol b.2) = ls.count (symbol b.1)

theorem outline?_eq_some {ls : List Lexeme} {ws : List String} (h : scan [] ls = some ([], ws)) :
    outline? ls = some ws := by
  rw [outline?, h]
  rfl

theorem scan_nil_eq_some_iff {p q : List Char} {ws : List String} :
    scan p [] = some (q, ws) ↔ q = p ∧ ws = [] := by
  rw [scan, Option.some.injEq, Prod.mk.injEq, eq_comm, @eq_comm _ []]

/-- What a scan does with its first lexeme. -/
theorem scan_cons_eq_some_iff {l : Lexeme} {ls : List Lexeme} {p q : List Char}
    {ws : List String} :
    scan p (l :: ls) = some (q, ws) ↔
      ∃ p' us, nest p l = some p' ∧ scan p' ls = some (q, us) ∧ ws = seen p l ++ us := by
  rw [scan, Option.bind_eq_some_iff]
  refine exists_congr fun p' => ?_
  rw [exists_and_left, Option.map_eq_some_iff]
  refine and_congr_right fun _ => ?_
  constructor
  · rintro ⟨r, hr, ⟨⟩⟩
    exact ⟨r.2, hr, rfl⟩
  · rintro ⟨us, hus, rfl⟩
    exact ⟨(q, us), hus, rfl⟩

/-! ### Scanning in sequence -/

theorem scan_append {ls ms : List Lexeme} : ∀ {p q : List Char} {ws : List String},
    scan p ls = some (q, ws) →
      scan p (ls ++ ms) = (scan q ms).map fun r => (r.1, ws ++ r.2) := by
  induction ls with
  | nil =>
      intro p q ws h
      obtain ⟨rfl, rfl⟩ := scan_nil_eq_some_iff.mp h
      simp
  | cons l ls ih =>
      intro p q ws h
      obtain ⟨p', us, hp', hus, rfl⟩ := scan_cons_eq_some_iff.mp h
      rw [List.cons_append, scan, hp', Option.bind_some, ih hus, Option.map_map]
      congr 1
      funext r'
      simp

theorem scan_append_eq_some {ls ms : List Lexeme} {p q r : List Char} {ws us : List String}
    (hls : scan p ls = some (q, ws)) (hms : scan q ms = some (r, us)) :
    scan p (ls ++ ms) = some (r, ws ++ us) := by
  rw [scan_append hls, hms]
  rfl

theorem scan_prefix {ls ms : List Lexeme} : ∀ {p q : List Char} {ws : List String},
    scan p (ls ++ ms) = some (q, ws) → ∃ r us, scan p ls = some (r, us) := by
  induction ls with
  | nil => exact fun _ => ⟨_, _, rfl⟩
  | cons l ls ih =>
      intro p q ws h
      obtain ⟨p', _, hp', hrest, -⟩ := scan_cons_eq_some_iff.mp h
      obtain ⟨r, us, hus⟩ := ih hrest
      exact ⟨r, _, scan_cons_eq_some_iff.mpr ⟨p', us, hp', hus, rfl⟩⟩

/-! ### Counting brackets -/

theorem nest_count {p p' : List Char} {l : Lexeme} (h : nest p l = some p') :
    ∀ b ∈ [('(', ')'), ('[', ']')],
      [l].count (symbol b.1) + p.count b.2 = [l].count (symbol b.2) + p'.count b.2 := by
  cases l with
  | symbol c =>
      simp only [nest] at h
      split at h
      · rename_i hc
        cases Option.some.inj h
        simp [hc, Nat.add_comm]
      split at h
      · rename_i hc
        cases Option.some.inj h
        simp [hc, Nat.add_comm]
      split at h
      · split at h
        · rename_i hc hp
          cases Option.some.inj h
          obtain ⟨p, rfl⟩ := List.head?_eq_some_iff.mp hp
          rcases hc with rfl | rfl <;> simp [Nat.add_comm]
        · cases h
      · cases Option.some.inj h
        simp_all [List.count_singleton]
  | _ =>
      cases Option.some.inj h
      simp

/-- The brackets still to close behind lexemes are those that were opened and not closed. -/
theorem scan_count {ls : List Lexeme} {b : Char × Char} (hb : b ∈ [('(', ')'), ('[', ']')]) :
    ∀ {p q : List Char} {ws : List String}, scan p ls = some (q, ws) →
      ls.count (symbol b.1) + p.count b.2 = ls.count (symbol b.2) + q.count b.2 := by
  induction ls with
  | nil =>
      intro p q ws h
      obtain ⟨rfl, -⟩ := scan_nil_eq_some_iff.mp h
      rfl
  | cons l ls ih =>
      intro p q ws h
      obtain ⟨p', us, hp', hus, -⟩ := scan_cons_eq_some_iff.mp h
      have hstep := nest_count hp' b hb
      have hrest := ih hus
      rw [← List.singleton_append, List.count_append, List.count_append]
      omega

theorem balanced_of_scan {ls : List Lexeme} {ws : List String} (h : scan [] ls = some ([], ws)) :
    Balanced ls := by
  intro b hb
  refine ⟨?_, ?_⟩
  · rintro ms ⟨rest, rfl⟩
    obtain ⟨q, us, hms⟩ := scan_prefix h
    have hcount := scan_count hb hms
    rw [List.count_nil] at hcount
    omega
  · have hcount := scan_count hb h
    simpa using hcount.symm

/-! ### Scanning within brackets -/

theorem nest_frame {p q : List Char} {l : Lexeme} (h : nest p l = some q) (base : List Char) :
    nest (p ++ base) l = some (q ++ base) := by
  cases l with
  | symbol c =>
      simp only [nest] at h ⊢
      cases p with
      | nil => grind
      | cons d p => grind
  | _ =>
      cases Option.some.inj h
      rfl

/-- Within brackets nothing is seen of a text, and the brackets around it stay open. -/
theorem scan_frame {ls : List Lexeme} {base : List Char} (hbase : base ≠ []) :
    ∀ {p q : List Char} {ws : List String},
      scan p ls = some (q, ws) → scan (p ++ base) ls = some (q ++ base, []) := by
  induction ls with
  | nil =>
      intro p q ws h
      obtain ⟨rfl, -⟩ := scan_nil_eq_some_iff.mp h
      rfl
  | cons l ls ih =>
      intro p q ws h
      obtain ⟨p', us, hp', hus, -⟩ := scan_cons_eq_some_iff.mp h
      have hseen : seen (p ++ base) l = [] := by
        cases l <;> simp [seen, hbase]
      exact scan_cons_eq_some_iff.mpr ⟨_, [], nest_frame hp' base, ih hus, by rw [hseen]; rfl⟩

/-! ### Lexemes that are not seen -/

/-- Whether a lexeme is neither a bracket nor a head word. -/
def isUnseen : Lexeme → Bool
  | word w => !isHeadWord w
  | symbol c => c ≠ '(' && c ≠ '[' && c ≠ ')' && c ≠ ']'
  | _ => true

theorem scan_of_isUnseen {ls : List Lexeme} (h : ∀ l ∈ ls, l.isUnseen) (p : List Char) :
    scan p ls = some (p, []) := by
  induction ls with
  | nil => rfl
  | cons l ls ih =>
      have hl := h l List.mem_cons_self
      have hnest : nest p l = some p := by
        cases l <;> simp_all [nest, isUnseen]
      have hseen : seen p l = [] := by
        cases l <;> simp_all [seen, isUnseen]
      have hrest := ih fun m hm => h m (List.mem_cons_of_mem l hm)
      exact scan_cons_eq_some_iff.mpr ⟨p, [], hnest, hrest, by rw [hseen]; rfl⟩

/-! ### Numbers -/

theorem not_isNumeric_of_isHeadWord {w : String} (h : isHeadWord w) {c : Char}
    (hc : c ∈ w.toList) : ¬ isNumeric c := by
  have hall : headWords.all fun k => k.toList.all fun d => !isNumeric d := by decide
  have hword := List.all_eq_true.mp hall w (List.contains_iff_mem.mp h)
  simpa using List.all_eq_true.mp hword c hc

/-- Whether a lexeme is made of the characters of numbers. -/
def isNumber : Lexeme → Bool
  | word w => w.toList.all isNumeric
  | symbol c => isNumeric c
  | _ => false

theorem isUnseen_of_isNumber {l : Lexeme} (h : l.isNumber) : l.isUnseen := by
  cases l with
  | word w =>
      have hall : headWords.all fun k => !k.toList.all isNumeric := by decide
      rw [isUnseen, Bool.not_eq_true', Bool.eq_false_iff]
      intro hhead
      have hword := List.all_eq_true.mp hall w (List.contains_iff_mem.mp hhead)
      rw [Bool.not_eq_true', Bool.eq_false_iff] at hword
      exact hword h
  | symbol c =>
      have hc : isNumeric c := h
      simp [isUnseen, ne_of_isNumeric hc, isNumeric]
  | _ => cases h

theorem isNumber_ofWord {w : List Char} (hw : ∀ c ∈ w, isNumeric c) :
    ∀ l ∈ ofWord w, l.isNumber := by
  intro l hl
  unfold ofWord at hl
  split at hl
  · cases hl
  · rw [map_toUpper_of_isNumeric hw] at hl
    rw [List.mem_singleton.mp hl, isNumber, String.toList_ofList]
    exact List.all_eq_true.mpr hw

theorem isNumber_ofSeparator {c : Char} (hc : isNumeric c) :
    ∀ l ∈ ofSeparator (.char c), l.isNumber := by
  intro l hl
  rw [ofSeparator] at hl
  split at hl
  · cases hl
  · rw [List.mem_singleton.mp hl]
    exact hc

theorem isNumber_of_isNumeric {cs : List Char} (hcs : ∀ c ∈ cs, isNumeric c) :
    ∀ {w : List Char}, (∀ c ∈ w, isNumeric c) →
      ∀ l ∈ ofTokens w (cs.map Token.char), l.isNumber := by
  induction cs with
  | nil => exact fun hw => isNumber_ofWord hw
  | cons c cs ih =>
      intro w hw l hl
      have hc := hcs c List.mem_cons_self
      have hcs' : ∀ d ∈ cs, isNumeric d := fun d hd => hcs d (List.mem_cons_of_mem c hd)
      cases hword : Token.wordChar? (.char c) with
      | some d =>
          have hd : d = c := by
            simp only [Token.wordChar?] at hword
            split at hword
            · exact (Option.some.inj hword).symm
            · cases hword
          rw [List.map_cons, ofTokens_cons_word hword, hd] at hl
          refine ih hcs' (fun e he => ?_) l hl
          rcases List.mem_append.mp he with he | he
          · exact hw e he
          · rw [List.mem_singleton.mp he]
            exact hc
      | none =>
          rw [List.map_cons, ofTokens_cons_separator hword] at hl
          rcases List.mem_append.mp hl with hl | hl
          · exact isNumber_ofWord hw l hl
          · rcases List.mem_append.mp hl with hl | hl
            · exact isNumber_ofSeparator hc l hl
            · exact ih hcs' (by simp) l hl

theorem scan_of_isNumeric {s : String} (hs : ∀ c ∈ s.toList, isNumeric c) (p : List Char) :
    scan p (ofTokens [] (Token.ofText s)) = some (p, []) :=
  scan_of_isUnseen (fun l hl => isUnseen_of_isNumber (isNumber_of_isNumeric hs (by simp) l hl)) p

end Lexeme

end FluentSql
