import FluentSql.Proofs.TermReading

/-! # The grammar of expressions

Products bind tighter than sums and both associate to the left; calls, parentheses, integers with
their sign and quoted names are atoms (`Arith.Derives`).  A reader by recursive descent takes what
the grammar derives (`Arith.Derives.taken`), so no text has two trees (`Arith.Derives.unique`). -/

namespace FluentSql

/-! ### Trees -/

/-- An expression as a tree.  Parentheses are not part of it. -/
inductive Arith where
  | int (n : Int)
  | name (parts : List NamePart)
  | plus (e x : Arith)
  | times (e x : Arith)
  | sum (e : Arith)
  | round (e : Arith) (decimals : Int)
  | runningDifference (e : Arith)
  | count
  | sumIf (e : Arith) (op : Operator) (x : Arith)
deriving DecidableEq, Repr

/-- An operator in lexemes. -/
def Operator.lexemes : Operator → List Lexeme
  | eq => [.symbol '=']
  | notEq => [.symbol '!', .symbol '=']
  | lessOrEq => [.symbol '<', .symbol '=']
  | greaterOrEq => [.symbol '>', .symbol '=']
  | less => [.symbol '<']
  | greater => [.symbol '>']
  | like => [.word "LIKE"]
  | ilike => [.word "ILIKE"]
  | notLike => [.word "NOT", .word "LIKE"]
  | between => [.word "BETWEEN"]
  | notBetween => [.word "NOT", .word "BETWEEN"]
  | isIn => [.word "IN"]
  | notIn => [.word "NOT", .word "IN"]
  | globalIn => [.word "GLOBAL", .word "IN"]
  | globalNotIn => [.word "GLOBAL", .word "NOT", .word "IN"]
  | and => [.word "AND"]
  | or => [.word "OR"]
  | concat => [.symbol '|', .symbol '|']
  | lambda => [.symbol '-', .symbol '>']
  | divide => [.symbol '/']
  | modulo => [.symbol '%']
  | multiply => [.symbol '*']
  | plus => [.symbol '+']
  | minus => [.symbol '-']

/-- The lexemes of a call of the function `w`, with those of its arguments. -/
def Lexeme.call (w : String) (ls : List Lexeme) : List Lexeme :=
  .word w :: .symbol '(' :: (ls ++ [.symbol ')'])

namespace Arith

/-- What a part of an expression can be. -/
inductive Level where
  | atom
  | product
  | sum

/-- The lexemes `ls` are derived from a level of the grammar, with the tree `e`. -/
inductive Derives : Level → List Lexeme → Arith → Prop
  | int {ls : List Lexeme} {n : Int} (h : Term.IsInteger ls n) : Derives .atom ls (.int n)
  | name {p : NamePart} {ps : List NamePart} (h : p :: ps ≠ [.star]) :
      Derives .atom (p.lexeme :: NamePart.dotted ps) (.name (p :: ps))
  | parentheses {ls : List Lexeme} {e : Arith} (h : Derives .sum ls e) :
      Derives .atom (.symbol '(' :: (ls ++ [.symbol ')'])) e
  | callSum {ls : List Lexeme} {e : Arith} (h : Derives .sum ls e) :
      Derives .atom (Lexeme.call "SUM" ls) (.sum e)
  | callRound {ls ms : List Lexeme} {e : Arith} {n : Int} (h : Derives .sum ls e)
      (hn : Term.IsInteger ms n) :
      Derives .atom (Lexeme.call "ROUND" (ls ++ .symbol ',' :: ms)) (.round e n)
  | callRunningDifference {ls : List Lexeme} {e : Arith} (h : Derives .sum ls e) :
      Derives .atom (Lexeme.call "RUNNINGDIFFERENCE" ls) (.runningDifference e)
  | callCount : Derives .atom (Lexeme.call "COUNT" []) .count
  | callSumIf {ls ms : List Lexeme} {e x : Arith} (op : Operator) (h : Derives .sum ls e)
      (hx : Derives .atom ms x) :
      Derives .atom
        (Lexeme.call "SUMIF" (ls ++ .symbol ',' :: (op.lexemes ++ ms)))
        (.sumIf e op x)
  | product {ls : List Lexeme} {e : Arith} (h : Derives .atom ls e) : Derives .product ls e
  | times {ls ms : List Lexeme} {e x : Arith} (h : Derives .product ls e)
      (hx : Derives .atom ms x) : Derives .product (ls ++ .symbol '*' :: ms) (.times e x)
  | sum {ls : List Lexeme} {e : Arith} (h : Derives .product ls e) : Derives .sum ls e
  | plus {ls ms : List Lexeme} {e x : Arith} (h : Derives .sum ls e)
      (hx : Derives .product ms x) : Derives .sum (ls ++ .symbol '+' :: ms) (.plus e x)

/-- A whole text is an expression with the tree `e`. -/
def IsTree (sql : String) (e : Arith) : Prop :=
  ∃ ls, Lexeme.read? sql = some ls ∧ Derives .sum ls e

/-! ### The reader -/

/-- Operands in a row, from left to right. -/
def leftNested (op : Arith → Arith → Arith) : List Arith → Option Arith
  | [] => none
  | e :: es => some (es.foldl op e)

/-- Operands with `sep` between them. -/
def readRow (op : Arith → Arith → Arith) (sep : Char) (operand : Reader Arith) (n : Nat) :
    Reader Arith :=
  Reader.filterMap (leftNested op) (Reader.separated operand (.symbol sep) n)

/-- An integer or a name. -/
def ofTerm? : Term → Option Arith
  | .int n => some (.int n)
  | .name parts => some (.name parts)
  | _ => none

def integer? : Term → Option Int
  | .int n => some n
  | _ => none

/-- An operator.  One that begins with another one stands before it in the list of them. -/
def readOperation : Reader Operator := fun ls =>
  (Keyword.all : List Operator).findSome? fun op =>
    (skip? op.lexemes ls).map fun rest => (op, rest)

/-- A call, with readers for whole expressions, for atoms and for integers. -/
def readCall (whole atom : Reader Arith) (integer : Reader Int) : Reader Arith
  | .word "SUM" :: ls => Reader.map sum (Reader.bracketed '(' ')' whole) ls
  | .word "ROUND" :: ls =>
      Reader.map (fun r => round r.1 r.2)
        (Reader.bracketed '(' ')' (Reader.both whole (Reader.after (.symbol ',') integer))) ls
  | .word "RUNNINGDIFFERENCE" :: ls =>
      Reader.map runningDifference (Reader.bracketed '(' ')' whole) ls
  | .word "COUNT" :: ls => (skip? [.symbol '(', .symbol ')'] ls).map fun rest => (count, rest)
  | .word "SUMIF" :: ls =>
      Reader.map (fun r => sumIf r.1 r.2.1 r.2.2)
        (Reader.bracketed '(' ')'
          (Reader.both whole (Reader.after (.symbol ',') (Reader.both readOperation atom)))) ls
  | _ => none

/-- An expression, given a reader for atoms. -/
def readWhole (atom : Reader Arith) (n : Nat) : Reader Arith :=
  readRow plus '+' (readRow times '*' atom n) n

/-- An atom, with brackets nested less than `n` deep. -/
def readAtom : Nat → Reader Arith
  | 0, _ => none
  | n + 1, ls =>
      (Reader.filterMap ofTerm? (Term.read (n + 1)) ls).or
        ((readCall (readWhole (readAtom n) n) (readAtom n)
            (Reader.filterMap integer? (Term.read n)) ls).or
          (Reader.bracketed '(' ')' (readWhole (readAtom n) n) ls))

/-! ### Rows of operands -/

/-- Operands from left to right with `sep` between them, each with its lexemes. -/
inductive Row (P : List Lexeme → Arith → Prop) (op : Arith → Arith → Arith) (sep : Char) :
    List Lexeme → Arith → Prop
  | one {ls : List Lexeme} {e : Arith} (h : P ls e) : Row P op sep ls e
  | snoc {ls ms : List Lexeme} {e x : Arith} (h : Row P op sep ls e) (hx : P ms x) :
      Row P op sep (ls ++ .symbol sep :: ms) (op e x)

/-- The lexemes `ls` are not empty, and a reader takes `e` from them in front of any others but
those in `ks`. -/
def Taken (read : Nat → Reader Arith) (ks ls : List Lexeme) (e : Arith) : Prop :=
  ls ≠ [] ∧ ∀ n, ls.length ≤ n → (read n).Takes ks ls e

theorem intercalate_concat {α : Type} (sep : List α) {lss : List (List α)} (hne : lss ≠ [])
    (ls : List α) : sep.intercalate (lss ++ [ls]) = sep.intercalate lss ++ (sep ++ ls) := by
  induction lss with
  | nil => exact absurd rfl hne
  | cons ms lss ih =>
      cases lss with
      | nil => simp [List.intercalate_cons_cons]
      | cons ks lss =>
          have hrest := ih (List.cons_ne_nil _ _)
          rw [List.cons_append] at hrest
          rw [List.cons_append, List.cons_append, List.intercalate_cons_cons, hrest,
            List.intercalate_cons_cons]
          simp only [List.append_assoc]

namespace Row

variable {P : List Lexeme → Arith → Prop} {op : Arith → Arith → Arith} {sep : Char}
  {ls : List Lexeme} {e : Arith}

theorem mono (h : Row P op sep ls e) {Q : List Lexeme → Arith → Prop}
    (hPQ : ∀ ls e, P ls e → Q ls e) : Row Q op sep ls e := by
  induction h with
  | one h => exact .one (hPQ _ _ h)
  | snoc _ hx ih => exact .snoc ih (hPQ _ _ hx)

theorem exists_items (h : Row P op sep ls e) :
    ∃ items : List (List Lexeme × Arith), items ≠ [] ∧ (∀ i ∈ items, P i.1 i.2) ∧
      [Lexeme.symbol sep].intercalate (items.map (·.1)) = ls ∧
        leftNested op (items.map (·.2)) = some e := by
  induction h with
  | @one ls e h => exact ⟨[(ls, e)], by simp, by simpa using h, by simp, rfl⟩
  | @snoc ls ms e x _ hx ih =>
      obtain ⟨items, hne, hitems, hlexemes, htree⟩ := ih
      obtain ⟨i, items, rfl⟩ := List.exists_cons_of_ne_nil hne
      refine ⟨i :: items ++ [(ms, x)], by simp, ?_, ?_, ?_⟩
      · intro j hj
        rcases List.mem_append.mp hj with hj | hj
        · exact hitems j hj
        · obtain rfl := List.mem_singleton.mp hj
          exact hx
      · rw [List.map_append, List.map_singleton, intercalate_concat _ (by simp), hlexemes]
        rfl
      · have hfold := Option.some.inj htree
        simp only [List.map_append, List.map_cons, List.map_nil, List.cons_append, leftNested,
          List.foldl_append, List.foldl_cons, List.foldl_nil]
        rw [hfold]

theorem taken {read : Nat → Reader Arith} {ks : List Lexeme} (hsep : .symbol sep ∉ ks)
    (h : Row (Taken read ks) op sep ls e) :
    Taken (fun n => readRow op sep (read n) n) (.symbol sep :: ks) ls e := by
  obtain ⟨items, hne, hitems, rfl, htree⟩ := h.exists_items
  have hnonempty : ∀ i ∈ items, i.1 ≠ [] := fun i hi => (hitems i hi).1
  refine ⟨intercalate_ne_nil _ (by simpa using hne) (by simpa using hnonempty), ?_⟩
  intro n hn
  have hrow := Reader.Takes.separated_of_length_le hsep hne hnonempty hn
    fun i hi => (hitems i hi).2 n
  exact hrow.filterMap htree

end Row

/-! ### What the reader takes -/

/-- The reader takes `e` from `ls`, which do not go on an operator in front of them. -/
def AtomTaken (ls : List Lexeme) (e : Arith) : Prop :=
  (∃ l rest, ls = l :: rest ∧ l ∉ [Lexeme.symbol '=', Lexeme.symbol '>']) ∧
    Taken readAtom [.symbol '.'] ls e

def ProductTaken : List Lexeme → Arith → Prop := Row AtomTaken times '*'

def SumTaken : List Lexeme → Arith → Prop := Row ProductTaken plus '+'

def Level.Taken : Level → List Lexeme → Arith → Prop
  | atom => AtomTaken
  | product => ProductTaken
  | sum => SumTaken

theorem ProductTaken.taken {ls : List Lexeme} {e : Arith} (h : ProductTaken ls e) :
    Taken (fun n => readRow times '*' (readAtom n) n) [.symbol '*', .symbol '.'] ls e := by
  have hatoms := h.mono fun _ _ hatom => hatom.2
  exact hatoms.taken (by decide)

theorem SumTaken.taken {ls : List Lexeme} {e : Arith} (h : SumTaken ls e) :
    Taken (fun n => readWhole (readAtom n) n) [.symbol '+', .symbol '*', .symbol '.'] ls e := by
  have hproducts := h.mono fun _ _ hproduct => hproduct.taken
  exact hproducts.taken (by decide)

/-- An operator is told from those that begin like it by what does not follow. -/
theorem takes_operation (op : Operator) :
    readOperation.Takes [.symbol '=', .symbol '>'] op.lexemes op := by
  intro rest hrest
  have hequals : skip? [.symbol '='] rest = none :=
    skip?_eq_none fun l hl e => hrest l hl (by simp [e])
  have hgreater : skip? [.symbol '>'] rest = none :=
    skip?_eq_none fun l hl e => hrest l hl (by simp [e])
  unfold readOperation
  cases op <;> simp [Operator.lexemes, Keyword.all, skip?, hequals, hgreater]

/-- Lexemes whose first one tells which reader takes them. -/
theorem atomTaken_of_takes {l : Lexeme} {ls : List Lexeme} {e : Arith}
    (hl : l ∉ [Lexeme.symbol '=', Lexeme.symbol '>'])
    (h : ∀ n, ls.length ≤ n → (readAtom (n + 1)).Takes [.symbol '.'] (l :: ls) e) :
    AtomTaken (l :: ls) e := by
  refine ⟨⟨l, ls, rfl, hl⟩, List.cons_ne_nil _ _, ?_⟩
  intro n hn
  obtain ⟨n, rfl⟩ := Nat.exists_eq_add_of_le' (Nat.le_trans (Nat.le_add_left 1 _) hn)
  exact h n (Nat.le_of_succ_le_succ hn)

theorem taken_of_written {ls : List Lexeme} {t : Term} {e : Arith} (h : Term.Written ls t)
    (ht : ofTerm? t = some e) : AtomTaken ls e := by
  obtain ⟨⟨l, rest, rfl, hl⟩, hread⟩ := h
  -- terms may begin like anything but `=`, but none of them is read from a `>`
  have hgreater : l ≠ .symbol '>' := by
    rintro rfl
    have hnone := hread (rest.length + 1) (by simp) [] nofun
    rw [List.append_nil] at hnone
    cases hnone
  have hequals : l ≠ .symbol '=' := by
    rintro rfl
    exact hl (by decide)
  refine atomTaken_of_takes (by simp [hequals, hgreater]) fun n hn ms hms => ?_
  have hleaf := (hread (n + 1) (Nat.succ_le_succ hn)).filterMap ht ms hms
  rw [readAtom, hleaf]
  rfl

/-- A call that is read between its brackets. -/
theorem taken_call {w : String} {ls ks : List Lexeme} {α : Type} {inner : Nat → Reader α} {x : α}
    {g : α → Arith} (hword : Term.ofWord? w = none) (hclose : .symbol ')' ∉ ks)
    (hread : ∀ n rest, readCall (readWhole (readAtom n) n) (readAtom n)
      (Reader.filterMap integer? (Term.read n)) (.word w :: rest) =
        Reader.map g (Reader.bracketed '(' ')' (inner n)) rest)
    (hinner : ∀ n, ls.length ≤ n → (inner n).Takes ks ls x) :
    AtomTaken (Lexeme.call w ls) (g x) := by
  refine atomTaken_of_takes (by simp) fun n hn rest _ => ?_
  rw [List.length_cons, List.length_append] at hn
  have hleaf (ms : List Lexeme) :
      Reader.filterMap ofTerm? (Term.read (n + 1)) (.word w :: ms) = none := by
    rw [Reader.filterMap, Term.read, hword]
    rfl
  have hcall := ((hinner n (by omega)).bracketed (o := '(') hclose).map g rest (by simp)
  rw [List.cons_append, readAtom, hleaf, hread, hcall]
  rfl

theorem takes_whole {ls : List Lexeme} {e : Arith} (h : SumTaken ls e) (n : Nat)
    (hn : ls.length ≤ n) :
    (readWhole (readAtom n) n).Takes [.symbol '+', .symbol '*', .symbol '.'] ls e :=
  h.taken.2 n hn

/-- An expression and something else, with a comma between them. -/
theorem takes_arguments {ls ms ks : List Lexeme} {e : Arith} {α : Type} {second : Nat → Reader α}
    {x : α} (h : SumTaken ls e) (hsecond : ∀ n, ms.length ≤ n → (second n).Takes ks ms x) (n : Nat)
    (hn : (ls ++ .symbol ',' :: ms).length ≤ n) :
    (Reader.both (readWhole (readAtom n) n) (Reader.after (.symbol ',') (second n))).Takes ks
      (ls ++ .symbol ',' :: ms) (e, x) := by
  rw [List.length_append, List.length_cons] at hn
  have hfirst := takes_whole h n (by omega)
  exact hfirst.both (by decide) ((hsecond n (by omega)).after (.symbol ','))

theorem taken_parentheses {ls : List Lexeme} {e : Arith} (h : SumTaken ls e) :
    AtomTaken (.symbol '(' :: (ls ++ [.symbol ')'])) e := by
  refine atomTaken_of_takes (by decide) fun n hn rest _ => ?_
  rw [List.length_append] at hn
  have hinner := (takes_whole h n (by omega)).bracketed (o := '(') (c := ')') (by decide) rest
    (by simp)
  have hleaf : Reader.filterMap ofTerm? (Term.read (n + 1))
      (.symbol '(' :: (ls ++ [.symbol ')']) ++ rest) = none := rfl
  have hcall : readCall (readWhole (readAtom n) n) (readAtom n)
      (Reader.filterMap integer? (Term.read n)) (.symbol '(' :: (ls ++ [.symbol ')']) ++ rest) =
        none := rfl
  rw [readAtom, hleaf, hcall, hinner]
  rfl

theorem taken_count : AtomTaken (Lexeme.call "COUNT" []) .count :=
  atomTaken_of_takes (by decide) fun _ _ _ _ => rfl

/-- The condition of a call: an operator and an atom. -/
theorem takes_condition {ms : List Lexeme} {x : Arith} (op : Operator) (hx : AtomTaken ms x)
    (n : Nat) (hn : (op.lexemes ++ ms).length ≤ n) :
    (Reader.both readOperation (readAtom n)).Takes [.symbol '.'] (op.lexemes ++ ms) (op, x) := by
  obtain ⟨⟨l, rest, rfl, hl⟩, -, hread⟩ := hx
  rw [List.length_append] at hn
  exact (takes_operation op).both hl (hread n (by omega))

/-- **The reader takes what the grammar derives.** -/
theorem Derives.taken {l : Level} {ls : List Lexeme} {e : Arith} (h : Derives l ls e) :
    l.Taken ls e := by
  induction h with
  | int h => exact taken_of_written h.written rfl
  | name h => exact taken_of_written (written_name h) rfl
  | parentheses _ ih => exact taken_parentheses ih
  | callSum _ ih => exact taken_call (by decide) (by decide) (fun _ _ => rfl) (takes_whole ih)
  | callRound _ hn ih =>
      have hdecimals := takes_arguments ih fun n hlen =>
        (hn.written.2 n hlen).filterMap (g := integer?) rfl
      exact taken_call (w := "ROUND") (g := fun r => .round r.1 r.2) (by decide) (by decide)
        (fun _ _ => rfl) hdecimals
  | callRunningDifference _ ih =>
      exact taken_call (by decide) (by decide) (fun _ _ => rfl) (takes_whole ih)
  | callCount => exact taken_count
  | callSumIf op _ _ ih ihx =>
      have hcondition := takes_arguments ih (takes_condition op ihx)
      exact taken_call (w := "SUMIF") (g := fun r => .sumIf r.1 r.2.1 r.2.2) (by decide)
        (by decide) (fun _ _ => rfl) hcondition
  | product _ ih => exact .one ih
  | times _ _ ih ihx => exact .snoc ih ihx
  | sum _ ih => exact .one ih
  | plus _ _ ih ihx => exact .snoc ih ihx

/-- **No text has two trees.** -/
theorem IsTree.unique {sql : String} {e e' : Arith} (h : IsTree sql e) (h' : IsTree sql e') :
    e = e' := by
  obtain ⟨ls, hls, hderives⟩ := h
  obtain ⟨ms, hms, hderives'⟩ := h'
  obtain rfl := Option.some.inj (hls.symm.trans hms)
  have hread := takes_whole hderives.taken ls.length le_rfl [] nofun
  have hread' := takes_whole hderives'.taken ls.length le_rfl [] nofun
  exact (Prod.mk.inj (Option.some.inj (hread.symm.trans hread'))).1

end Arith

end FluentSql
